import TaskRules.Proofs.RetryChain

/-!
What a retry works on. A job that is sent again passes through plain JSON, where a number that is
not finite becomes null, and is then written and read back; nothing else about it changes but the
count of attempts.

Proved:
- `IsRetryOf.trigger_eq_iff`: a retry asks for the same run exactly when the numbers of its data
  are finite.
- `retry_works_on_finite_data`: the message that a failed delivery publishes is read as a retry of
  its job.
-/

namespace TaskRules.Queue

/-- A job with one attempt more, and null in place of numbers that are not finite. -/
structure IsRetryOf (k j : Job) : Prop where
  ruleId : k.ruleId = j.ruleId
  triggerType : k.triggerType = j.triggerType
  triggeredBy : k.triggeredBy = j.triggeredBy
  jobId : k.jobId = j.jobId
  attempt : k.attempt = j.attempt + 1
  data : Json.obj k.triggerData = (Json.obj j.triggerData).finite

theorem again_isRetryOf (j : Job) : IsRetryOf j.again.finite j := ⟨rfl, rfl, rfl, rfl, rfl, rfl⟩

/-- A retry asks for the same run when every number in its data, at every depth, is finite. -/
theorem IsRetryOf.trigger_eq_iff {k j : Job} (h : IsRetryOf k j) :
    trigger k = trigger j ↔ (Json.obj j.triggerData).isFinite = true := by
  rw [← Json.finite_eq_iff, ← h.data]
  obtain ⟨ruleId, triggerType, triggeredBy, jobId, -, -⟩ := h
  simp [trigger, ruleId, triggerType, triggeredBy, jobId]

/-- A delivery whose run is to be tried again publishes one message, and whoever it reaches reads a
retry of the job from it. -/
theorem retry_works_on_finite_data {c : Collaborators σ} (hc : Works c) {m : Int}
    (hm : Configured m) {raw : Raw} {j : Job} (hj : raw.job? = some j) (hs : j.HoldsCharacters)
    (topic : Json) (s : σ) (fails : FailsRetryably (c.execute (trigger j) s).1)
    (remain : j.attempt < m) :
    ∃ text k, (deliver c (.int m) raw topic s).deeds =
        [.ran (trigger j) (c.execute (trigger j) s).1, .sent text] ∧
      (∀ next, Carries next text → next.job? = some k) ∧ IsRetryOf k j ∧
      (trigger k = trigger j ↔ (Json.obj j.triggerData).isFinite = true) := by
  rcases deliver_step hc hm.bound hj hs topic s with ends | ⟨text, sends⟩
  · exact absurd ⟨fails, remain⟩ ends.final
  · have retry := again_isRetryOf j
    exact ⟨text, j.again.finite, sends.deeds, sends.job, retry, retry.trigger_eq_iff⟩

theorem failing_fails (t : Engine.Trigger) : FailsRetryably (failing.execute t ()).1 := .inl rfl

theorem a_second_attempt_is_retried :
    ∃ text k, (deliver failing (.int 3) secondTry .null ()).deeds =
        [.ran (trigger secondJob) (failing.execute (trigger secondJob) ()).1, .sent text] ∧
      (∀ next, Carries next text → next.job? = some k) ∧ IsRetryOf k secondJob ∧
      (trigger k = trigger secondJob ↔ (Json.obj secondJob.triggerData).isFinite = true) :=
  retry_works_on_finite_data failing_works configured_three job_of_secondTry
    secondJob_holdsCharacters .null () (failing_fails _) (by decide)

def measuredJob : Job :=
  { ruleId := "r-1", triggerType := "TASK_CREATED", triggerData := [("estimate", .double .nan)] }

def measured : Raw := .text (Json.obj measuredJob.messageFields).text

theorem measuredJob_isReceived : measuredJob.IsReceived where
  ruleId := by decide
  triggerType := by decide
  data := .obj (List.pairwise_singleton _ "estimate") fun f hf => by
    rw [List.mem_singleton.mp hf]
    exact .double trivial
  attempt := by decide

theorem measuredJob_holdsCharacters : measuredJob.HoldsCharacters where
  ruleId := Text.ofCharacters_small (by decide)
  data := .obj (fun name hname => by
      rw [List.mem_singleton.mp hname]
      exact Text.ofCharacters_small (by decide))
    fun f hf => by
      rw [List.mem_singleton.mp hf]
      exact .double trivial
  triggeredBy _ h := by cases h
  jobId _ h := by cases h

theorem job_of_measured : measured.job? = some measuredJob := by
  have ha : measuredJob.attempt.natAbs < 10 ^ Json.maxDigits := lt_ten_pow (by decide)
  exact Job.job_of_text measuredJob_isReceived measuredJob_holdsCharacters ha rfl

/-- A retry of a job whose data holds a number that is not finite works on other data. -/
theorem a_number_that_is_not_finite_is_lost :
    measured.job? = some measuredJob ∧
      ∃ text k, (deliver failing (.int 3) measured .null ()).deeds =
          [.ran (trigger measuredJob) (.error (.ofForeign .connection "refused")), .sent text] ∧
        (Raw.text text).job? = some k ∧ k.triggerData = [("estimate", .null)] ∧
        measuredJob.triggerData = [("estimate", .double .nan)] := by
  refine ⟨job_of_measured, ?_⟩
  rcases deliver_step failing_works configured_three.bound job_of_measured
    measuredJob_holdsCharacters .null () with ends | ⟨text, sends⟩
  · exact absurd ⟨failing_fails _, by decide⟩ ends.final
  · exact ⟨text, measuredJob.again.finite, sends.deeds, sends.job (.text text) rfl, rfl, rfl⟩

end TaskRules.Queue
