import TaskRules.Proofs.ConcurrentCreation
import TaskRules.Proofs.NumberClaims
import TaskRules.Proofs.Repetition

/-!
Whether an action that creates a task gets it created. Without others at work every attempt looks up
the number after the largest one, so all its attempts are one attempt (`claimNumber_alone`). The
number is free, but its slug need not be: a task of the project may have it under another number.
Then each attempt is refused for the same slug. With others at work an attempt that was refused for
its number is followed by one for a larger number.

Proved:
- `claimNumber_alone`, `createTask_alone`, `creating_alone`: attempts without others come to one
  claim.
- `slug_of_taken`, `taken_of_slug`, `granted_of_free_slug`: how that claim is answered.
- `creation_makes_progress`: when an action that creates a task is refused, and which numbers it
  claims.
- `a_slug_in_use_stops_creation`: three attempts for one number that no one takes.
-/

namespace TaskRules.Engine
open TaskRules.Action

/-- The dispatch of an action that creates a task. -/
def creating (maxAttempts : Int) (config payload : Json) (context : Context) :
    Script (Option Result) :=
  (Registry.standard (.int maxAttempts)).dispatch (.str "CREATE_TASK") config
    (Payload.read payload) context

section Alone
variable {project : Project} {config payload : Json} {j : Creation} {w : World} {m : Int}

theorem creating_eq (asks : Asks project config payload j) (maxAttempts : Int) :
    creating maxAttempts config payload j.context =
      (createTask (.int maxAttempts) j.config j.payload.named j.context >>= fun r =>
        pure (some r)).settle Registry.configFailure := by
  obtain ⟨fields, rfl, read⟩ := asks.config
  rw [creating, asks.payload, dispatch_createTask (.int maxAttempts) read]

theorem creating_claiming (asks : Asks project config payload j) (maxAttempts : Int) :
    Claiming project.id none (creating maxAttempts config payload j.context) := by
  rw [creating_eq asks, ← asks.target]
  exact .settle _ ((createTask_claiming (.int maxAttempts) j).before fun r => .done (.ok (some r)))

theorem Ready.honest {k : Nat} {asked : Fin k → Creation} (ready : Ready project asked w)
    (largest : w.store.db.Largest project.id m) : Honest project.id w where
  current := ready.current
  outage := by simp [ready.usable]
  counted := fun t ht own => by
    obtain ⟨n, number, -⟩ := largest.whole t ht own
    exact ⟨n, number⟩

/-- A claim that is refused leaves the world ready. -/
theorem Ready.refused {k : Nat} {asked : Fin k → Creation} (ready : Ready project asked w)
    {s : Setup} {d : Task.Draft} {ids : Json} {e : Fault} {w' : World}
    (failed : s.answer (.createTask d ids) w = (.error e, w')) :
    Ready project asked w' ∧ w'.store.db = w.store.db := by
  obtain ⟨answer, store, overtaken⟩ := answer_createTask (s := s) d ids w
  rw [failed] at answer store overtaken
  rcases Store.createTask_failed ready.usable answer.symm with
    ⟨-, stored⟩ | ⟨wanted, -, stored⟩
  · rw [stored] at store
    exact ⟨ready.aside store overtaken, congrArg Store.db store⟩
  · rw [stored] at store
    have same := congrArg Store.db store
    exact ⟨ready.attempted store overtaken fun n hn => ready.unused n (by omega), same⟩

/-- A script goes on with what its first request is answered. -/
theorem run_answered {s : Setup} {q : Request} {next : Except Fault q.Answer → Script α}
    {w w' : World} {r : Except Fault q.Answer} (answered : s.answer q w = (r, w')) :
    (Script.ask q next).run s.answer w = (next r).run s.answer w' := by
  rw [Script.run_ask, answered]

theorem run_asked {s : Setup} {q : Request} {w w' : World} {a : q.Answer}
    (answered : s.answer q w = (.ok a, w')) (f : q.Answer → Script α) :
    (Script.request q >>= f).run s.answer w = (f a).run s.answer w' :=
  run_answered answered

section Attempts
variable {s : Setup} {draft : Int → Task.Draft} {ids : List String} {n : Int} {w₁ w₂ : World}
  {r : Except Fault TaskView} {e : Fault}

/-- An attempt whose claim is not refused as taken. -/
theorem claimNumber_settled (given : s.answer (.nextNumber (.str project.id)) w = (.ok n, w₁))
    (claimed : s.answer (.createTask (draft n) (textsJson ids)) w₁ = (r, w₂))
    (settled : ∀ e, r = .error e → isTaken e = false) (attempts left : Nat) :
    (claimNumber draft ids project attempts left).run s.answer w = (r, w₂) := by
  cases left with
  | zero => exact (run_asked given _).trans (run_answered claimed)
  | succ left =>
    refine (run_asked given _).trans ((run_answered claimed).trans ?_)
    cases r with
    | ok t => rfl
    | error e =>
      show Script.run s.answer (if isTaken e then _ else _) w₂ = _
      rw [if_neg (by simp [settled e rfl])]
      rfl

/-- An attempt whose claim is refused as taken, with another one left. Only the log shows it. -/
theorem claimNumber_again (given : s.answer (.nextNumber (.str project.id)) w = (.ok n, w₁))
    (claimed : s.answer (.createTask (draft n) (textsJson ids)) w₁ = (.error e, w₂))
    (taken : isTaken e = true) (attempts left : Nat) :
    ∃ noted : World, noted.store = w₂.store ∧ noted.overtaken = w₂.overtaken ∧
      (claimNumber draft ids project attempts (left + 1)).run s.answer w =
        (claimNumber draft ids project attempts left).run s.answer noted := by
  refine ⟨(World.note (takenNote n project (attempts - (left + 1)) attempts) w₂).2, rfl, rfl,
    (run_asked given _).trans ((run_answered claimed).trans ?_)⟩
  show Script.run s.answer (if isTaken e then _ else _) w₂ = _
  rw [if_pos taken]
  rfl

end Attempts

/-- Alone, every claim is made in the same database, and the last one decides. -/
theorem claimNumber_alone (asks : Asks project config payload j)
    (ready : Ready project (fun _ : Fin 1 => j) w) (largest : w.store.db.Largest project.id m)
    (s : Setup) (statusId : String) (attempts left : Nat) :
    ∃ v, Ready project (fun _ : Fin 1 => j) v ∧ v.store.db = w.store.db ∧
      (claimNumber (j.draft project statusId) j.config.assigneeIds project attempts left).run
        s.answer w = s.answer (.createTask (j.draft project statusId (m + 1))
          (textsJson j.config.assigneeIds)) v := by
  induction left generalizing w with
  | zero =>
    have given := gives_number s ready asks.project_whole largest
    exact ⟨w, ready, rfl, run_asked given _⟩
  | succ left ih =>
    have given := gives_number s ready asks.project_whole largest
    rcases claimed : s.answer (.createTask (j.draft project statusId (m + 1))
      (textsJson j.config.assigneeIds)) w with ⟨r, w₁⟩
    by_cases taken : ∃ e, r = .error e ∧ isTaken e = true
    · obtain ⟨e, rfl, taken⟩ := taken
      -- the next attempt starts from the same database, for the same number
      obtain ⟨ready', same⟩ := ready.refused claimed
      obtain ⟨noted, store, overtaken, again⟩ :=
        claimNumber_again given claimed taken attempts left
      have largest' : noted.store.db.Largest project.id m := by rwa [store, same]
      obtain ⟨v, ready'', same', ran⟩ := ih (ready'.aside store overtaken) largest'
      refine ⟨v, ready'', ?_, again.trans ran⟩
      rw [same', store, same]
    · have settled : ∀ e, r = .error e → isTaken e = false := by
        intro e failed
        exact Bool.eq_false_iff.mpr fun h => taken ⟨e, failed, h⟩
      exact ⟨w, ready, rfl, (claimNumber_settled given claimed settled ..).trans claimed.symm⟩

/-- The status of the task is found. -/
theorem newStatus_found (ready : Ready project (fun _ : Fin 1 => j) w) (s : Setup) :
    ∃ statusId, (newStatus j.config project).run s.answer w = (.ok statusId, w) ∧
      w.store.db.HasStatus statusId := by
  have status := ready.statuses 0
  rw [StatusThere] at status
  cases chosen : orElse j.config.statusId none with
  | some id =>
    rw [chosen] at status
    rw [newStatus_configured chosen, statusFound, orElse_some (orElse_filled chosen)]
    exact ⟨id, rfl, status⟩
  | none =>
    rw [chosen] at status
    obtain ⟨workflow, id, hworkflow, filled, whole, default, hid, there⟩ := status
    rw [newStatus_default chosen]
    refine ⟨id, (run_asked (finds_status s ready hworkflow filled whole default) _).trans ?_, there⟩
    rw [statusFound, orElse_some hid]
    rfl

/-- Alone, an action that creates a task claims one number, and tells clients when it is granted. -/
theorem createTask_alone (asks : Asks project config payload j)
    (ready : Ready project (fun _ : Fin 1 => j) w) (largest : w.store.db.Largest project.id m)
    (s : Setup) (maxAttempts : Int) :
    ∃ statusId v, v.store.db.HasStatus statusId ∧ Ready project (fun _ : Fin 1 => j) v ∧
      v.store.db = w.store.db ∧
      (createTask (.int maxAttempts) j.config j.payload.named j.context).run s.answer w =
        (s.answer (.createTask (j.draft project statusId (m + 1))
          (textsJson j.config.assigneeIds)) >>= fun t => (report t).run s.answer) v := by
  obtain ⟨statusId, found, there⟩ := newStatus_found ready s
  obtain ⟨v, ready', same, claimed⟩ := claimNumber_alone asks ready largest s statusId
    (max 1 maxAttempts.toNat) (max 1 maxAttempts.toNat - 1)
  refine ⟨statusId, v, by rwa [same], ready', same, ?_⟩
  have known := finds_project s ready asks.project_whole
  rw [← asks.target] at known
  refine (run_asked known _).trans ?_
  show (newStatus j.config project >>= fun statusId =>
    claimNumber (j.draft project statusId) j.config.assigneeIds project (max 1 maxAttempts.toNat)
      (max 1 maxAttempts.toNat - 1) >>= report).run s.answer w = _
  rw [Script.run_bind, Run.bind_of_ok found, Script.run_bind]
  show Run.andThen _ _ w = Run.andThen _ _ v
  rw [Run.andThen, Run.andThen, claimed]
  rfl

theorem report_closing (t : TaskView) : Closing (· = created t) (report t) := .tell (.done rfl)

/-- What a creation comes to that is alone. -/
theorem creating_alone (asks : Asks project config payload j)
    (ready : Ready project (fun _ : Fin 1 => j) w) (largest : w.store.db.Largest project.id m)
    (s : Setup) (maxAttempts : Int) :
    ∃ statusId v, v.store.db.HasStatus statusId ∧ Ready project (fun _ : Fin 1 => j) v ∧
      v.store.db = w.store.db ∧ ∀ r v', s.answer (.createTask (j.draft project statusId (m + 1))
          (textsJson j.config.assigneeIds)) v = (r, v') →
        ∃ w', (creating maxAttempts config payload j.context).run s.answer w =
            (Registry.configFailure (r.map fun t => some (created t)), w') ∧
          w'.store.db = v'.store.db := by
  obtain ⟨statusId, v, there, ready', same, ran⟩ :=
    createTask_alone asks ready largest s maxAttempts
  refine ⟨statusId, v, there, ready', same, fun r v' claimed => ?_⟩
  rw [creating_eq asks, Script.run_settle, Script.run_bind]
  cases r with
  | error e =>
    rw [Run.bind_of_error claimed] at ran
    rw [Run.bind_of_error ran]
    exact ⟨v', rfl, rfl⟩
  | ok t =>
    obtain ⟨_, w', told, rfl, kept⟩ := closing_run s (report_closing t) v'
    rw [Run.bind_of_ok claimed, told] at ran
    rw [Run.bind_of_ok ran]
    exact ⟨w', rfl, kept⟩

theorem number_unused (largest : w.store.db.Largest project.id m) :
    ¬ w.store.db.HasNumber project.id (m + 1) := by
  rintro ⟨t, ht, own, number⟩
  obtain ⟨n, number', le⟩ := largest.whole t ht own
  cases number.symm.trans number'
  omega

theorem free_of_slug (largest : w.store.db.Largest project.id m)
    (h : ¬ w.store.db.HasSlug project.id (numberedSlug project (m + 1))) :
    w.store.db.Free project.id (numberedSlug project (m + 1)) (m + 1) := fun t ht own =>
  ⟨fun number => number_unused largest ⟨t, ht, own, number⟩, fun slug => h ⟨t, ht, own, slug⟩⟩

/-- Alone, a creation is refused as taken only when the slug is in use that goes with the next
number. -/
theorem slug_of_taken (asks : Asks project config payload j)
    (ready : Ready project (fun _ : Fin 1 => j) w) (largest : w.store.db.Largest project.id m)
    (s : Setup) (maxAttempts : Int) {e : Fault}
    (failed : ((creating maxAttempts config payload j.context).run s.answer w).1 = .error e)
    (taken : isTaken e = true) :
    w.store.db.HasSlug project.id (numberedSlug project (m + 1)) := by
  obtain ⟨statusId, v, -, ready', same, ran⟩ := creating_alone asks ready largest s maxAttempts
  rcases claimed : s.answer (.createTask (j.draft project statusId (m + 1))
    (textsJson j.config.assigneeIds)) v with ⟨r, v'⟩
  obtain ⟨w', hrun, -⟩ := ran r v' claimed
  rw [hrun] at failed
  have refused : r = .error e := by
    cases r with
    | ok t => cases failed
    | error e' =>
      have failed' : Registry.configFailure (.error e') = .error e := failed
      rw [Registry.configFailure] at failed'
      split at failed'
      · cases failed'
      · cases failed'
        rfl
  have honest : Honest project.id v := ready'.honest (same ▸ largest)
  have answered := (congrArg Prod.fst claimed).trans refused
  have inUse := honest.taken (n := m + 1) rfl rfl rfl answered taken
  rw [same] at inUse
  exact inUse.resolve_left (number_unused largest)

/-- Alone, a creation is refused as taken when the slug is in use that goes with the next number. -/
theorem taken_of_slug (asks : Asks project config payload j)
    (ready : Ready project (fun _ : Fin 1 => j) w) (largest : w.store.db.Largest project.id m)
    (s : Setup) (maxAttempts : Int) (storable : Storable j) (fits : Word.fits (m + 1) = true)
    (h : w.store.db.HasSlug project.id (numberedSlug project (m + 1))) :
    ∃ e w', (creating maxAttempts config payload j.context).run s.answer w = (.error e, w') ∧
      isTaken e = true ∧ w'.store.db = w.store.db := by
  obtain ⟨statusId, v, there, ready', same, ran⟩ := creating_alone asks ready largest s maxAttempts
  have proper := asks.draft_proper storable ready'.slug there.1 fits
  rw [← same] at h
  have refused := Store.createTask_clashing ready'.usable proper rfl there (ready'.assignees 0)
    (.inr h)
  obtain ⟨answer, -, -⟩ := createTask_of_taken s (onStore_apply refused)
  obtain ⟨w', hrun, kept⟩ := ran _ _ (Prod.ext answer rfl)
  obtain ⟨-, unchanged⟩ := ready'.refused (Prod.ext answer rfl)
  exact ⟨_, w', hrun, rfl, kept.trans (unchanged.trans same)⟩

/-- Alone, a creation succeeds under the next number when the slug is free that goes with it. -/
theorem granted_of_free_slug (asks : Asks project config payload j)
    (ready : Ready project (fun _ : Fin 1 => j) w) (largest : w.store.db.Largest project.id m)
    (s : Setup) (maxAttempts : Int) (storable : Storable j) (fits : Word.fits (m + 1) = true)
    (h : ¬ w.store.db.HasSlug project.id (numberedSlug project (m + 1))) :
    ∃ u t w', (creating maxAttempts config payload j.context).run s.answer w =
        (.ok (some (created t)), w') ∧ Added project (m + 1) w w' u ∧
      t.id = u.id ∧ t.number = u.number ∧ t.slug = u.slug := by
  obtain ⟨statusId, v, there, ready', same, ran⟩ := creating_alone asks ready largest s maxAttempts
  have free := free_of_slug largest h
  rw [← same] at free
  obtain ⟨u, t, v', answer, -, added, reported⟩ :=
    grants_claim s (i := 0) ready' asks storable there fits free
  obtain ⟨w', hrun, kept⟩ := ran _ _ answer
  refine ⟨u, t, w', hrun, ⟨added.projectId, added.number, added.slug, ?_, ?_⟩, reported⟩
  · rw [kept, added.tasks, same]
  · intro id hid
    rw [kept]
    exact added.statuses id (by rwa [same])

/-- A creation makes progress. Alone, it is refused as taken only when the project has a task of the
slug that goes with its next number; then it is, however often it may try, and the database stays as
it was. Otherwise it creates the task of the next number. Amid others, a number that it claims is
larger than those that it claimed before, except for those that were free but whose slug was not.
-/
theorem creation_makes_progress (asks : Asks project config payload j)
    (ready : Ready project (fun _ : Fin 1 => j) w) (largest : w.store.db.Largest project.id m)
    (s : Setup) (maxAttempts : Int) :
    let x := creating maxAttempts config payload j.context
    let slugUsed := w.store.db.HasSlug project.id (numberedSlug project (m + 1))
    (∀ e, (x.run s.answer w).1 = .error e → isTaken e = true → slugUsed) ∧
      (Storable j → Word.fits (m + 1) = true →
        (slugUsed → ∃ e w', x.run s.answer w = (.error e, w') ∧ isTaken e = true ∧
          w'.store.db = w.store.db) ∧
        (¬ slugUsed → ∃ u t w', x.run s.answer w = (.ok (some (created t)), w') ∧
          Added project (m + 1) w w' u ∧ t.id = u.id ∧ t.number = u.number ∧ t.slug = u.slug)) ∧
      ∀ (others : World → World → Prop) (claims : List Claim),
        (∀ v v', others v v' → KeepsNumbers project.id v v') → Amid s others x w claims →
          claims.Pairwise (Claim.Precedes project.id) := by
  refine ⟨?_, ?_, ?_⟩
  · exact fun e failed taken => slug_of_taken asks ready largest s maxAttempts failed taken
  · intro storable fits
    exact ⟨taken_of_slug asks ready largest s maxAttempts storable fits,
      granted_of_free_slug asks ready largest s maxAttempts storable fits⟩
  · intro others claims keeps amid
    exact claims_precede keeps (creating_claiming asks maxAttempts) (ready.honest largest) amid

end Alone

/-! ## Two creations -/

/-- The claims that a script makes when others take a step at some of its turns. -/
def claimsAmid (s : Setup) (step : World → World) : List Bool → Script α → World → List Claim
  | [], _, _ => []
  | true :: rest, x, w => claimsAmid s step rest x (step w)
  | false :: _, .done _, _ => []
  | false :: rest, .ask q next, w =>
    let later := claimsAmid s step rest (next (s.answer q w).1) (s.answer q w).2
    match q with
    | .createTask d _ => ⟨d, w.store.db⟩ :: later
    | _ => later

theorem amid_claimsAmid (s : Setup) (step : World → World) (turns : List Bool) (x : Script α)
    (w : World) : Amid s (fun v v' => v' = step v) x w (claimsAmid s step turns x w) := by
  induction turns generalizing x w with
  | nil => exact .here x w
  | cons theirs rest ih =>
    cases theirs with
    | true => exact .other rfl (ih x _)
    | false =>
      cases x with
      | done r => exact .here _ w
      | ask q next =>
        cases q with
        | createTask d ids => exact .claim (ih _ _)
        | _ => exact .turn rfl (ih _ _)

/-- A dispatch of a creation for the web project, with three attempts. -/
def webCreating (title : String) : Script (Option Result) :=
  creating 3 (webConfig title) .null (webCreation title).context

/-- Someone else adds the web project's second task. -/
def meanwhile (w : World) : World :=
  (({} : Setup).answer (.createTask ((webCreation "Meanwhile").draft webProject "s-todo" 2)
    (textsJson [])) w).2

/-- A task is created alone under the next number; when that is taken between its look-up and its
claim, under the one after it. -/
theorem a_follow_up_is_numbered :
    Asks webProject (webConfig "Follow up") .null (webCreation "Follow up") ∧
      Ready webProject (fun _ : Fin 1 => webCreation "Follow up") webWorld ∧
      webWorld.store.db.Largest webProject.id 1 ∧
      (∃ u t w', (webCreating "Follow up").run ({} : Setup).answer webWorld =
        (.ok (some (created t)), w') ∧ Added webProject 2 webWorld w' u ∧ t.number = u.number) ∧
      ∃ c later, claimsAmid {} meanwhile [false, false, true, false, false, false, false]
          (webCreating "Follow up") webWorld = [c, later] ∧
        c.draft.number = .int 2 ∧ later.draft.number = .int 3 ∧
        Claim.Precedes webProject.id c later := by
  have room : Room webProject 1 1 webWorld.store.db := webWorld_room (by decide)
  obtain ⟨-, alone, amid⟩ := creation_makes_progress (webCreation_asks "Follow up")
    (webWorld_ready "Follow up") room.largest {} 3
  have storable : Storable (webCreation "Follow up") :=
    ⟨writable_str (by decide), writable_null, writable_null, writable_null⟩
  have unused : ¬ webWorld.store.db.HasSlug webProject.id (numberedSlug webProject (1 + 1)) := by
    rintro ⟨t, ht, own, slug⟩
    exact room.slugs 2 (by decide) (by decide) t ht own slug
  obtain ⟨u, t, w', ran, added, -, number, -⟩ := (alone storable (by decide)).2 unused
  refine ⟨webCreation_asks _, webWorld_ready _, room.largest, ⟨u, t, w', ran, added, number⟩, ?_⟩
  have keeps : ∀ v v', v' = meanwhile v → KeepsNumbers webProject.id v v' := by
    rintro v _ rfl
    exact createTask_keepsNumbers rfl _ v
  have ordered := amid _ _ keeps (amid_claimsAmid {} meanwhile
    [false, false, true, false, false, false, false] _ webWorld)
  exact ⟨_, _, rfl, rfl, rfl, List.rel_of_pairwise_cons ordered (List.mem_singleton_self _)⟩

/-- The web world with its task under another number, and with a slug of yet another one. -/
def renumbered : World :=
  { webWorld with store := { webWorld.store with db := { webWorld.store.db with
      tasks := webWorld.store.db.tasks.map fun t =>
        { t with number := .int 7, slug := numberedSlug webProject 8 } } } }

/-- A creation that no one interferes with looks up the same number three times, and is refused as
taken three times. -/
theorem a_slug_in_use_stops_creation :
    Asks webProject (webConfig "Follow up") .null (webCreation "Follow up") ∧
      Ready webProject (fun _ : Fin 1 => webCreation "Follow up") renumbered ∧
      (∃ e, ((webCreating "Follow up").run ({} : Setup).answer renumbered).1 = .error e ∧
        isTaken e = true) ∧
      ((claimsAmid {} id (List.replicate 9 false) (webCreating "Follow up") renumbered).map
        (·.draft.number)) = [.int 8, .int 8, .int 8] := by
  have ready : Ready webProject (fun _ : Fin 1 => webCreation "Follow up") renumbered :=
    { usable := rfl
      current := rfl
      known := rfl
      slug := by decide
      unused := by
        intro n hn
        have before := (webWorld_ready (k := 1) "Follow up").unused n hn
        refine ⟨fun t ht => ?_, before.2⟩
        obtain ⟨u, hu, rfl⟩ := List.mem_map.mp ht
        exact before.1 u hu
      statuses := fun _ => ⟨by decide, rfl⟩
      assignees := fun _ => List.forall_mem_nil _ }
  exact ⟨webCreation_asks _, ready, ⟨_, rfl, rfl⟩, rfl⟩

end TaskRules.Engine
