import TaskRules.Proofs.JobMessages
import TaskRules.Proofs.Runs
import TaskRules.Settings

/-!
Chains of retries. A delivery runs the rule of its job and, when the run failed, the error may be
tried again and attempts remain, publishes the job with one attempt more; the text is delivered
again. What the runs do is left open, and each delivery may have collaborators of its own.

Proved:
- `deliver_step`: a delivery of a job ends the chain, or sends the job again.
- `Chain.bounded`: by induction on the chain, attempts count up by one and stay within the most
  there may be, so the chain is at most as long as there are attempts left.
- `exists_chain`: there is a chain from every job.
- `Configured.bound`: a number of attempts that was configured can be written in a message.
- `retries_are_bounded`: the chains from a message, with the number of attempts that was
  configured.
-/

namespace TaskRules.Queue

/-! ## Deliveries -/

/-- What a delivery does that others see: it runs a rule, or publishes a text. -/
inductive Deed where
  | ran (t : Engine.Trigger) (answer : Except Fault Engine.Outcome)
  | sent (text : String)

/-- The same collaborators, with runs and publications noted. -/
def watched (c : Collaborators σ) : Collaborators (σ × List Deed) where
  execute t := .noting (.ran t) (c.execute t)
  publish text := .noting (fun _ => .sent text) (c.publish text)
  log r := .first (c.log r)

/-- A message, the state it was delivered in, what the delivery did and how it ended. -/
structure Delivery (σ : Type) where
  raw : Raw
  start : σ
  deeds : List Deed
  ending : Except Fault Disposition

/-- The delivery of a message in a state. -/
def deliver (c : Collaborators σ) (maxAttempts : Json) (raw : Raw) (topic : Json) (s : σ) :
    Delivery σ :=
  let done := handle (watched c) maxAttempts raw topic (s, [])
  ⟨raw, s, done.2.2, done.1⟩

/-- Collaborators that can publish and log. Runs may do and raise anything. -/
structure Works (c : Collaborators σ) : Prop where
  log : ∀ r s, (c.log r s).1 = .ok ()
  publish : ∀ text s, (c.publish text s).1 = .ok ()

/-- A run failed and may be tried again: its error is none of the engine's own, which alone carry a
flag, or its flag says so. -/
def FailsRetryably : Except Fault Engine.Outcome → Prop
  | .ok _ => False
  | .error e => e.isEngine = false ∨ e.retryableValue.truthy = true

theorem retryable_iff (e : Fault) :
    e.retryable = true ↔ e.isEngine = false ∨ e.retryableValue.truthy = true := by
  cases e <;> simp [Fault.retryable, Fault.retryableValue, Fault.isEngine, Json.truthy]

instance : DecidablePred FailsRetryably
  | .ok _ => isFalse id
  | .error e => decidable_of_iff _ (retryable_iff e)

/-- What a delivery of a job does and how it ends, given how its run did. -/
inductive Handled (m : Int) (j : Job) :
    Except Fault Engine.Outcome → List Deed → Disposition → Prop
  | done (o : Engine.Outcome) : Handled m j (.ok o) [.ran (trigger j) (.ok o)] .done
  | dropped (e : Fault) (final : ¬(e.retryable = true ∧ j.attempt < m)) :
      Handled m j (.error e) [.ran (trigger j) (.error e)] .dropped
  | retry (e : Fault) (v : Json) (again : e.retryable = true ∧ j.attempt < m)
      (message : j.again.message = .ok v) :
      Handled m j (.error e) [.ran (trigger j) (.error e), .sent v.text] .retry

theorem attemptsRemain_int (attempt m : Int) :
    attemptsRemain attempt (.int m) = .ok (decide (attempt < m)) := by
  show Except.ok (decide (attempt ≤ m) && !(attempt == m)) = _
  congr 1
  by_cases h : attempt < m
  · simp only [h, decide_true, Bool.and_eq_true, decide_eq_true_eq, Bool.not_eq_true',
      beq_eq_false_iff_ne]
    omega
  · by_cases he : attempt = m
    · simp [he]
    · simp only [h, decide_false, Bool.and_eq_false_iff, decide_eq_false_iff_not]
      omega

section Deliveries
variable {c : Collaborators σ} (hc : Works c) (s : σ) (l : List Deed)
include hc

theorem log_watched (r : Log.Record) :
    ∃ s', (watched c).log r (s, l) = (.ok (), (s', l)) :=
  ⟨(c.log r s).2, by simp [watched, hc.log]⟩

theorem publish_watched (text : String) :
    ∃ s', (watched c).publish text (s, l) = (.ok (), (s', l ++ [.sent text])) :=
  ⟨(c.publish text s).2, by simp [watched, hc.publish]⟩

/-- What a run decides. -/
def disposed (m : Int) (j : Job) : Except Fault Engine.Outcome → Disposition
  | .ok _ => .done
  | .error e => if e.retryable = true ∧ j.attempt < m then .retry else .dropped

/-- A run decides what becomes of its job, and publishes nothing. -/
theorem run_watched (m : Int) (j : Job) :
    ∃ s', run (watched c) (.int m) j (s, l) =
      (.ok (disposed m j (c.execute (trigger j) s).1),
        (s', l ++ [.ran (trigger j) (c.execute (trigger j) s).1])) := by
  rcases hx : c.execute (trigger j) s with ⟨answer, s₁⟩
  have hexecute : Run.attempt ((watched c).execute (trigger j)) (s, l) =
      (.ok answer, (s₁, l ++ [.ran (trigger j) answer])) := by
    simp [watched, hx]
  rw [run, Run.bind_of_ok hexecute]
  cases answer with
  | ok o => exact ⟨s₁, rfl⟩
  | error e =>
    have hdropped : ∃ s',
        ((watched c).log (Log.error logger (jobText j ++ " dropped after attempt " ++
        decimal j.attempt ++ " (retryable=" ++ (Json.bool e.retryable).display ++ "): " ++
        e.text)) >>= fun _ => pure .dropped) (s₁, l ++ [.ran (trigger j) (.error e)]) =
        (.ok Disposition.dropped, (s', l ++ [.ran (trigger j) (.error e)])) := by
      obtain ⟨s₂, hlog⟩ := log_watched hc s₁ (l ++ [.ran (trigger j) (.error e)]) (Log.error logger
        (jobText j ++ " dropped after attempt " ++ decimal j.attempt ++ " (retryable=" ++
          (Json.bool e.retryable).display ++ "): " ++ e.text))
      exact ⟨s₂, Run.bind_of_ok hlog _⟩
    obtain ⟨s₂, hdropped⟩ := hdropped
    dsimp only
    cases hr : e.retryable with
    | false =>
      refine ⟨s₂, ?_⟩
      rw [hr] at hdropped
      rw [disposed, hr, if_neg (by simp)]
      exact hdropped
    | true =>
      rw [if_pos rfl, attemptsRemain_int, Run.bind_of_ok (Run.ofExcept_apply _ _)]
      by_cases h : j.attempt < m
      · obtain ⟨s₂, hlog⟩ := log_watched hc s₁ (l ++ [.ran (trigger j) (.error e)])
          (Log.warning logger (jobText j ++ " attempt=" ++ decimal j.attempt ++ "/" ++
            (Json.int m).display ++ " failed, will retry: " ++ e.text))
        refine ⟨s₂, ?_⟩
        rw [if_pos (decide_eq_true h), disposed, if_pos ⟨hr, h⟩, Run.bind_of_ok hlog]
        rfl
      · refine ⟨s₂, ?_⟩
        rw [hr] at hdropped
        rw [if_neg (by simpa using h), disposed, if_neg (fun hand => h hand.2)]
        exact hdropped

/-- A job that can be written is published. -/
theorem sendAgain_watched {j : Job} {v : Json} (hv : j.again.message = .ok v) :
    ∃ s', sendAgain (watched c) j (s, l) = (.ok (), (s', l ++ [.sent v.text])) := by
  obtain ⟨s', hpublish⟩ := publish_watched hc s l v.text
  refine ⟨s', ?_⟩
  have hsend : Run.attempt (do (watched c).publish (← Run.ofExcept j.again.message).text) (s, l) =
      (.ok (.ok ()), (s', l ++ [.sent v.text])) := by
    rw [Run.attempt_apply, hv, Run.bind_of_ok (Run.ofExcept_apply _ _), hpublish]
  rw [sendAgain, Run.bind_of_ok hsend]
  rfl

/-- A message that is no job runs nothing and publishes nothing. -/
theorem deliver_invalid {raw : Raw} (h : raw.job? = none) (m topic : Json) :
    deliver c m raw topic s = ⟨raw, s, [], .ok .invalid⟩ := by
  obtain ⟨s', hlog⟩ := log_watched hc s [] (Log.warning logger ("Invalid automation job topic=" ++
    topic.display ++ " payload_len=" ++ decimal raw.length))
  rw [deliver, handle, h]
  dsimp only
  rw [Run.bind_of_ok hlog]
  rfl

/-- A job is run once, and sent again when it has to be retried. -/
theorem deliver_job {raw : Raw} {j : Job} (h : raw.job? = some j) {m : Int}
    (writes : j.attempt < m → ∃ v, j.again.message = .ok v) (topic : Json) :
    ∃ deeds disposition, deliver c (.int m) raw topic s = ⟨raw, s, deeds, .ok disposition⟩ ∧
      Handled m j (c.execute (trigger j) s).1 deeds disposition := by
  obtain ⟨s₁, hrun⟩ := run_watched hc s [] m j
  rw [deliver, handle, h]
  dsimp only
  rw [Run.bind_of_ok hrun]
  cases (c.execute (trigger j) s).1 with
  | ok o => exact ⟨_, _, rfl, .done o⟩
  | error e =>
    rw [disposed]
    by_cases again : e.retryable = true ∧ j.attempt < m
    · obtain ⟨v, hv⟩ := writes again.2
      obtain ⟨s₂, hsend⟩ := sendAgain_watched hc s₁ ([] ++ [.ran (trigger j) (.error e)]) hv
      rw [if_pos again]
      dsimp only
      rw [Run.bind_of_ok hsend]
      exact ⟨_, _, rfl, .retry e v again hv⟩
    · rw [if_neg again]
      exact ⟨_, _, rfl, .dropped e again⟩

end Deliveries

/-! ## Chains -/

/-- A message carries a text, as characters or as their bytes. -/
def Carries (raw : Raw) (text : String) : Prop := raw.text? = some text

/-- The deliveries that follow from a message: what each one publishes is delivered once, until one
publishes nothing. The n-th delivery works with the n-th collaborators, in any state. -/
inductive Chain (c : Nat → Collaborators σ) (maxAttempts : Json) :
    Nat → Raw → List (Delivery σ) → Prop
  | last {n : Nat} {raw : Raw} (topic : Json) (s : σ)
      (silent : ∀ text, .sent text ∉ (deliver (c n) maxAttempts raw topic s).deeds) :
      Chain c maxAttempts n raw [deliver (c n) maxAttempts raw topic s]
  | again {n : Nat} {raw next : Raw} {text : String} {rest : List (Delivery σ)} (topic : Json)
      (s : σ) (sent : .sent text ∈ (deliver (c n) maxAttempts raw topic s).deeds)
      (carries : Carries next text) (goes : Chain c maxAttempts (n + 1) next rest) :
      Chain c maxAttempts n raw (deliver (c n) maxAttempts raw topic s :: rest)

/-- A delivery that ran a job's rule and was the last one. -/
structure Ends (m : Int) (j : Job) (answer : Except Fault Engine.Outcome) (d : Delivery σ) :
    Prop where
  deeds : d.deeds = [.ran (trigger j) answer]
  final : ¬(FailsRetryably answer ∧ j.attempt < m)
  ending : d.ending = .ok .done ∨ d.ending = .ok .dropped

/-- A delivery that ran a job's rule and sent the job again. -/
structure SendsAgain (m : Int) (j : Job) (answer : Except Fault Engine.Outcome) (d : Delivery σ)
    (text : String) : Prop where
  deeds : d.deeds = [.ran (trigger j) answer, .sent text]
  fails : FailsRetryably answer
  remain : j.attempt < m
  job : ∀ next, Carries next text → next.job? = some j.again.finite

/-- A delivery of a job ends, or sends the job again. -/
theorem deliver_step {c : Collaborators σ} (hc : Works c) {m : Int} (hm : m < 10 ^ Json.maxDigits)
    {raw : Raw} {j : Job} (hj : raw.job? = some j) (hs : j.HoldsCharacters) (topic : Json) (s : σ) :
    Ends m j (c.execute (trigger j) s).1 (deliver c (.int m) raw topic s) ∨
      ∃ text, SendsAgain m j (c.execute (trigger j) s).1 (deliver c (.int m) raw topic s) text := by
  have hr := (Job.isReceived_of_job hj).again
  have message := Job.message_eq hr hs.again
  obtain ⟨deeds, disposition, hd, handled⟩ := deliver_job hc s hj (fun _ => ⟨_, message⟩) topic
  rw [hd]
  generalize (c.execute (trigger j) s).1 = answer at handled
  cases handled with
  | done o => exact .inl ⟨rfl, fun h => h.1, .inl rfl⟩
  | dropped e final =>
    exact .inl ⟨rfl, fun h => final ⟨(retryable_iff e).mpr h.1, h.2⟩, .inr rfl⟩
  | retry e v again hv =>
    obtain rfl : v = .obj j.again.finite.messageFields := Except.ok.inj (hv.symm.trans message)
    have hattempt : j.again.finite.attempt.natAbs < 10 ^ Json.maxDigits := by
      have hle : j.again.finite.attempt ≤ m := again.2
      have hpos : 1 ≤ j.again.finite.attempt := hr.attempt
      have hlt : (j.again.finite.attempt.natAbs : Int) < ((10 ^ Json.maxDigits : Nat) : Int) := by
        rw [Int.natAbs_of_nonneg (by omega)]
        push_cast
        omega
      exact Int.ofNat_lt.mp hlt
    exact .inr ⟨_, rfl, (retryable_iff e).mp again.1, again.2,
      fun next carries =>
        Job.job_of_text (hr.finite hs.again) (hs.again.finite hr) hattempt carries⟩

/-- What a chain keeps to that starts with a job. -/
structure Bounded (m : Int) (j : Job) (ds : List (Delivery σ)) : Prop where
  /-- Every message is a job, with one attempt more than the one before. -/
  attempts : ∀ i (h : i < ds.length), ∃ k, ds[i].raw.job? = some k ∧ k.attempt = j.attempt + i
  /-- No message that was sent counts more attempts than there may be. -/
  most : ∀ i, 0 < i → i < ds.length → j.attempt + i ≤ m
  /-- Each delivery runs its rule once and publishes at most once, exactly when the run is to be
  tried again. -/
  deliveries : ∀ d ∈ ds, ∃ k answer texts, d.raw.job? = some k ∧
    d.deeds = .ran (trigger k) answer :: texts.map .sent ∧ texts.length ≤ 1 ∧
    (texts ≠ [] ↔ FailsRetryably answer ∧ k.attempt < m)
  ends : ∃ d ∈ ds.getLast?, d.ending = .ok .done ∨ d.ending = .ok .dropped
  length : (ds.length : Int) ≤ max 1 (m - j.attempt + 1)
  full : (∀ d ∈ ds, ∀ t answer, .ran t answer ∈ d.deeds → FailsRetryably answer) →
    (ds.length : Int) = max 1 (m - j.attempt + 1)

theorem Ends.bounded {m : Int} {j : Job} {answer : Except Fault Engine.Outcome} {d : Delivery σ}
    (hj : d.raw.job? = some j) (h : Ends m j answer d) : Bounded m j [d] := by
  obtain ⟨hdeeds, final, hends⟩ := h
  constructor
  · intro i hi
    obtain rfl : i = 0 := by simpa using hi
    exact ⟨j, hj, by simp⟩
  · intro i h0 hi
    simp only [List.length_singleton] at hi
    omega
  · intro e he
    rw [List.mem_singleton.mp he]
    exact ⟨j, answer, [], hj, hdeeds, by simp, by simpa using final⟩
  · exact ⟨d, rfl, hends⟩
  · simp only [List.length_singleton]
    omega
  · intro hall
    have hfails := hall d (List.mem_singleton_self d) _ answer (hdeeds ▸ List.mem_cons_self ..)
    have hm : ¬j.attempt < m := fun hlt => final ⟨hfails, hlt⟩
    simp only [List.length_singleton]
    omega

theorem SendsAgain.bounded {m : Int} {j : Job} {answer : Except Fault Engine.Outcome}
    {d : Delivery σ} {text : String} (hj : d.raw.job? = some j) (h : SendsAgain m j answer d text)
    {rest : List (Delivery σ)} (hrest : Bounded m j.again.finite rest) :
    Bounded m j (d :: rest) := by
  obtain ⟨hdeeds, hfails, hlt, -⟩ := h
  have hnext : j.again.finite.attempt = j.attempt + 1 := rfl
  have hlength := hrest.length
  constructor
  · intro i hi
    cases i with
    | zero => exact ⟨j, hj, by simp⟩
    | succ i =>
      obtain ⟨k, hk, hattempt⟩ := hrest.attempts i (by simpa using hi)
      refine ⟨k, hk, ?_⟩
      push_cast
      omega
  · intro i h0 hi
    obtain ⟨i, rfl⟩ := Nat.exists_eq_succ_of_ne_zero h0.ne'
    cases i with
    | zero => push_cast; omega
    | succ i =>
      have := hrest.most (i + 1) (Nat.succ_pos i) (by simpa using hi)
      push_cast at this ⊢
      omega
  · intro e he
    rcases List.mem_cons.mp he with rfl | he
    · exact ⟨j, answer, [text], hj, hdeeds, Nat.le_refl 1, by simp [hfails, hlt]⟩
    · exact hrest.deliveries e he
  · obtain ⟨e, he, hends⟩ := hrest.ends
    refine ⟨e, ?_, hends⟩
    rw [List.getLast?_cons, he]
    rfl
  · rw [List.length_cons]
    push_cast
    omega
  · intro hall
    have := hrest.full fun e he => hall e (List.mem_cons_of_mem _ he)
    rw [List.length_cons]
    push_cast
    omega

theorem Ends.silent {m : Int} {j : Job} {answer : Except Fault Engine.Outcome} {d : Delivery σ}
    (h : Ends m j answer d) (text : String) : .sent text ∉ d.deeds := by
  rw [h.deeds]
  simp

theorem SendsAgain.sends {m : Int} {j : Job} {answer : Except Fault Engine.Outcome} {d : Delivery σ}
    {text : String} (h : SendsAgain m j answer d text) (other : String) :
    .sent other ∈ d.deeds ↔ other = text := by
  rw [h.deeds]
  simp

section Chains
variable {c : Nat → Collaborators σ} (hc : ∀ n, Works (c n)) {m : Int}
  (hm : m < 10 ^ Json.maxDigits)
include hc hm

/-- By induction on the chain: each delivery that sends its job again leads to the chain of the job
with the next attempt. -/
theorem Chain.bounded {n : Nat} {raw : Raw} {ds : List (Delivery σ)} (h : Chain c (.int m) n raw ds)
    {j : Job} (hj : raw.job? = some j) (hs : j.HoldsCharacters) : Bounded m j ds := by
  induction h generalizing j with
  | @last n raw topic s silent =>
    rcases deliver_step (hc n) hm hj hs topic s with ends | ⟨text, sends⟩
    · exact ends.bounded hj
    · exact absurd ((sends.sends text).mpr rfl) (silent text)
  | @again n raw next text rest topic s sent carries goes ih =>
    rcases deliver_step (hc n) hm hj hs topic s with ends | ⟨text', sends⟩
    · exact absurd sent (ends.silent text)
    · obtain rfl := (sends.sends text).mp sent
      have hr := Job.isReceived_of_job hj
      exact sends.bounded hj (ih (sends.job next carries) (hs.again.finite hr.again))

/-- There is a chain from every job: attempts run out. -/
theorem exists_chain (s : σ) {j : Job} (hs : j.HoldsCharacters) (n : Nat) {raw : Raw}
    (hj : raw.job? = some j) : ∃ ds, Chain c (.int m) n raw ds := by
  induction hk : (m - j.attempt).toNat using Nat.strongRecOn generalizing n raw j with
  | ind k ih =>
    rcases deliver_step (hc n) hm hj hs .null s with ends | ⟨text, sends⟩
    · exact ⟨_, .last .null s ends.silent⟩
    · have hnext : (m - j.again.finite.attempt).toNat < k := by
        have hremain := sends.remain
        have hattempt : j.again.finite.attempt = j.attempt + 1 := rfl
        omega
      have hr := Job.isReceived_of_job hj
      obtain ⟨ds, hds⟩ := ih _ hnext (hs.again.finite hr.again) (n + 1)
        (sends.job (.text text) rfl) rfl
      have carries : Carries (.text text) text := rfl
      exact ⟨_, .again .null s ((sends.sends text).mpr rfl) carries hds⟩

end Chains

/-! ## The most attempts -/

/-- A number of attempts that the environment can give the settings. -/
def Configured (m : Int) : Prop :=
  ∃ e s, Settings.read [] e = .ok s ∧ s.maxAttempts = .int m

/-- What a plain integer is read as after its sign. -/
def wholeAfter (negative : Bool) (body : List Char) : Schema.WholeReading :=
  let digits := body.takeWhile Json.isAsciiDigit
  let rest := body.dropWhile Json.isAsciiDigit
  let signed (n : Int) : Int := if negative then -n else n
  match digits with
  | [] => .none
  | '0' :: more => if more.isEmpty && rest.isEmpty then .value 0 else .none
  | _ =>
    if digits.length + (if negative then 1 else 0) > longestNumeral then .tooLong
    else if rest.isEmpty then .value (signed (Json.natOf digits))
    else .none

theorem wholeAfter_bound {negative : Bool} {body : List Char} {n : Int}
    (h : wholeAfter negative body = .value n) : n < 10 ^ Json.maxDigits := by
  have hdigits := Json.takeWhile_areDigits body
  unfold wholeAfter at h
  dsimp only at h
  generalize body.takeWhile Json.isAsciiDigit = digits at h hdigits
  generalize (body.dropWhile Json.isAsciiDigit).isEmpty = ends at h
  have hten : (0 : Int) < 10 ^ Json.maxDigits := by positivity
  split at h
  · cases h
  · split at h
    · cases h
      exact hten
    · cases h
  · generalize (if negative = true then 1 else 0 : Nat) = sign at h
    by_cases hlong : digits.length + sign > longestNumeral
    · rw [if_pos hlong] at h
      cases h
    rw [if_neg hlong] at h
    cases ends with
    | false => cases h
    | true =>
      cases h
      have hlength : digits.length ≤ Json.maxDigits := by
        have : longestNumeral = Json.maxDigits := rfl
        omega
      have hlt := (Json.natOf_lt hdigits).trans_le
        (Nat.pow_le_pow_right (by decide : 0 < 10) hlength)
      have hcast : (Json.natOf digits : Int) < 10 ^ Json.maxDigits := by
        have := Int.ofNat_lt.mpr hlt
        push_cast at this
        exact this
      cases negative
      · exact hcast
      · show -(Json.natOf digits : Int) < _
        omega

theorem plainWhole_bound {cs : List Char} {n : Int} (h : Schema.plainWhole cs = .value n) :
    n < 10 ^ Json.maxDigits := by
  obtain ⟨negative, body, hplain⟩ :
      ∃ negative body, Schema.plainWhole cs = wholeAfter negative body := ⟨_, _, rfl⟩
  rw [hplain] at h
  exact wholeAfter_bound h

theorem wholeText_bound {s : String} {n : Int} (h : Schema.wholeText s = .ok n) :
    n < 10 ^ Json.maxDigits := by
  unfold Schema.wholeText at h
  split at h
  · cases h
    exact plainWhole_bound ‹_›
  · cases h
  · split at h
    · rename_i hbare
      cases h
      obtain ⟨cs, -, hcs⟩ := Option.map_eq_some_iff.mp hbare
      exact plainWhole_bound hcs
    · cases h

/-- The settings that the environment gives are texts. -/
theorem sources_text {e : Environment} {f : String × Json} (h : f ∈ Settings.sources [] e) :
    ∃ s, f.2 = .str s := by
  obtain ⟨name, -, hname⟩ := List.mem_filterMap.mp h
  obtain ⟨s, -, rfl⟩ := Option.map_eq_some_iff.mp hname
  exact ⟨s, rfl⟩

theorem whole_bound {s : String} {m : Int} (h : Settings.whole (.str s) = .ok (.int m)) :
    m < 10 ^ Json.maxDigits := by
  unfold Settings.whole at h
  cases hw : Schema.whole (.str s) with
  | error problems => rw [hw] at h; cases h
  | ok n =>
    rw [hw] at h
    cases h
    obtain ⟨t, -, ht⟩ := Schema.also_ok hw
    exact wholeText_bound ht

/-- Numerals have their longest length, and so a number of attempts its bound. -/
theorem Configured.bound {m : Int} (h : Configured m) : m < 10 ^ Json.maxDigits := by
  obtain ⟨e, s, hread, hs⟩ := h
  obtain ⟨_, createAttempts, h, -, rfl⟩ := Schema.and_ok hread
  replace h := Schema.and_ok h
  obtain ⟨_, most, h, hmost, rfl⟩ := h
  -- the settings before these two
  iterate 16
    replace h := Schema.and_ok h
    obtain ⟨_, _, h, -, rfl⟩ := h
  cases h
  obtain rfl : most = .int m := hs
  rcases Schema.optional_ok hmost with hdefault | ⟨f, hf, hcheck⟩
  · cases hdefault
    calc (3 : Int) < 10 ^ 1 := by decide
      _ ≤ 10 ^ Json.maxDigits := pow_le_pow_right₀ (by decide) (by decide)
  · obtain ⟨text, htext⟩ := sources_text hf
    rw [htext] at hcheck
    exact whole_bound hcheck

/-- The chain of deliveries from a message. A message that is no job runs nothing and publishes
nothing; from a job whose strings hold no halves of surrogate pairs there is a chain, and every
chain keeps to the number of attempts. -/
theorem retries_are_bounded {c : Nat → Collaborators σ} (hc : ∀ n, Works (c n)) (s : σ) {m : Int}
    (hm : Configured m) (raw : Raw) :
    (raw.job? = none → ∀ ds, Chain c (.int m) 0 raw ds → ∃ d, ds = [d] ∧ d.deeds = []) ∧
    ∀ j, raw.job? = some j → j.HoldsCharacters →
      (∃ ds, Chain c (.int m) 0 raw ds) ∧ ∀ ds, Chain c (.int m) 0 raw ds → Bounded m j ds := by
  refine ⟨fun hj ds h => ?_, fun j hj hs =>
    ⟨exists_chain hc hm.bound s hs 0 hj, fun ds h => h.bounded hc hm.bound hj hs⟩⟩
  cases h with
  | last topic s silent => exact ⟨_, rfl, by rw [deliver_invalid (hc 0) s hj]⟩
  | again topic s sent carries goes =>
    rw [deliver_invalid (hc 0) s hj] at sent
    cases sent

/-- A rule whose run always raises an error that says nothing about another try. -/
def failing : Collaborators Unit where
  execute _ := .raise (.ofForeign .connection "refused")
  publish _ := .done ()
  log _ := .done ()

theorem failing_works : Works failing := ⟨fun _ _ => rfl, fun _ _ => rfl⟩

theorem configured_three : Configured 3 := ⟨{}, {}, rfl, rfl⟩

def secondJob : Job := { ruleId := "r-1", triggerType := "TASK_CREATED", attempt := 2 }

theorem secondJob_isReceived : secondJob.IsReceived where
  ruleId := by decide
  triggerType := by decide
  data := .obj List.nodup_nil fun _ h => by cases h
  attempt := by decide

theorem secondJob_holdsCharacters : secondJob.HoldsCharacters where
  ruleId := Text.ofCharacters_small (by decide)
  data := .obj (fun _ h => by cases h) fun _ h => by cases h
  triggeredBy _ h := by cases h
  jobId _ h := by cases h

theorem lt_ten_pow {n : Nat} (h : n < 10) : n < 10 ^ Json.maxDigits :=
  h.trans_le (Nat.le_self_pow (by decide) 10)

def secondTry : Raw := .text (Json.obj secondJob.messageFields).text

theorem job_of_secondTry : secondTry.job? = some secondJob := by
  have ha : secondJob.attempt.natAbs < 10 ^ Json.maxDigits := lt_ten_pow (by decide)
  exact Job.job_of_text secondJob_isReceived secondJob_holdsCharacters ha rfl

/-- From a job in its second attempt of three there is a chain, of two deliveries when both runs
fail. -/
theorem a_second_attempt_of_three :
    ∃ ds, Chain (fun _ => failing) (.int 3) 0 secondTry ds ∧ Bounded 3 secondJob ds := by
  obtain ⟨⟨ds, hds⟩, hall⟩ := (retries_are_bounded (fun _ => failing_works) () configured_three
    secondTry).2 secondJob job_of_secondTry secondJob_holdsCharacters
  exact ⟨ds, hds, hall ds hds⟩

end TaskRules.Queue
