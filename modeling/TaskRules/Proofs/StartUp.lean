import TaskRules.Process.App
import TaskRules.Proofs.BuildStages

/-!
Starting the service on a database that is kept with migrations. Two parts of the service build the
same tables, creating what is missing and carrying revisions out; a start does one after the other,
and they go together only where the marks say so. A database without marks whose tables are all
there is taken to be at the head; one with marks is brought up from there, and fails at the first
table that has just been created.

Proved:
- `Mirrors.bind`: commands on a file do to its database what they do to a state.
- `Upkeep.mirrors`, `Upkeep.keeps`, `Kept.sound`: what one command does, and what any number of
  commands keep.
- `prepare_outcome`: how the start ends, and what it leaves of the database.
- `start_converges`: after commands that all succeeded, a start brings the database to the head when
  it has no marks or is there already; at any other place migrating fails, and the place stays.
- `a_database_below_the_head_stays_behind`: such a place, and a start that fails.
-/

namespace TaskRules

namespace Migration

/-! ## One database -/

namespace Hosts

/-- The database in a file. -/
def content (h : Hosts) (path : String) : State := h.state (plainPath path)

theorem content_setState (h : Hosts) (path : String) (s : State) :
    (h.setState (plainPath path) s).content path = s := by
  simp [content, state, setState]

end Hosts

/-- A run that does to the database in a file what another one does to a state, and leaves the file
such that it can be opened again. -/
def Mirrors (hosts : σ → Hosts) (path : String) (x : Run σ α) (y : Run State α) : Prop :=
  ∀ w, (hosts w).canOpen path = true → ∃ w', x w = ((y ((hosts w).content path)).1, w') ∧
    (hosts w').content path = (y ((hosts w).content path)).2 ∧ (hosts w').canOpen path = true

namespace Mirrors
variable {hosts : σ → Hosts} {path : String}

theorem ofExcept (r : Except Fault α) : Mirrors hosts path (Run.ofExcept r) (Run.ofExcept r) :=
  fun w opens => ⟨w, rfl, rfl, opens⟩

theorem bind {x : Run σ α} {y : Run State α} (h : Mirrors hosts path x y) {f : α → Run σ β}
    {g : α → Run State β} (hfg : ∀ a, Mirrors hosts path (f a) (g a)) :
    Mirrors hosts path (x >>= f) (y >>= g) := by
  intro w opens
  obtain ⟨w₁, ran, content, opens₁⟩ := h w opens
  rcases result : y ((hosts w).content path) with ⟨r, s⟩
  rw [result] at ran content
  cases r with
  | error e =>
    rw [Run.bind_of_error result]
    exact ⟨w₁, Run.bind_of_error ran f, content, opens₁⟩
  | ok a =>
    rw [Run.bind_of_ok result, Run.bind_of_ok ran]
    obtain ⟨w₂, ran₂, content₂, opens₂⟩ := hfg a w₁ opens₁
    dsimp only at content
    rw [content] at ran₂ content₂
    exact ⟨w₂, ran₂, content₂, opens₂⟩

/-- A result that is known. -/
theorem given {r : Except Fault α} {a : α} (h : r = .ok a) {f : α → Run σ β} {y : Run State β}
    (hf : Mirrors hosts path (f a) y) : Mirrors hosts path (Run.ofExcept r >>= f) y := by
  subst h
  exact hf

/-- What leaves the database alone may come first. -/
theorem after {x : Run σ Unit} (hx : Mirrors hosts path x (pure ())) {f : Unit → Run σ β}
    {y : Run State β} (hf : Mirrors hosts path (f ()) y) : Mirrors hosts path (x >>= f) y :=
  hx.bind (g := fun _ => y) fun _ => hf

/-- What leaves the database alone may come last. -/
theorem before {x z : Run σ Unit} {y : Run State Unit} (h : Mirrors hosts path x y)
    (hz : Mirrors hosts path z (pure ())) : Mirrors hosts path (x >>= fun _ => z) y := by
  intro w opens
  obtain ⟨w₁, ran, content, opens₁⟩ := h w opens
  rcases result : y ((hosts w).content path) with ⟨r, s⟩
  rw [result] at ran content
  cases r with
  | error e => exact ⟨w₁, Run.bind_of_error ran _, content, opens₁⟩
  | ok u =>
    obtain ⟨w₂, ran₂, content₂, opens₂⟩ := hz w₁ opens₁
    exact ⟨w₂, (Run.bind_of_ok ran _).trans ran₂, content₂.trans content, opens₂⟩

end Mirrors

section Worlds
variable {path : String}

theorem note_mirrors (r : Log.Record) : Mirrors World.hosts path (World.note r) (pure ()) :=
  fun _ opens => ⟨_, rfl, rfl, opens⟩

theorem quieten_mirrors : Mirrors World.hosts path quieten (pure ()) :=
  fun _ opens => ⟨_, rfl, rfl, opens⟩

theorem connect_mirrors (x : Run State α) :
    Mirrors World.hosts path (World.onHosts (Hosts.connect (.file path false) x)) x := by
  intro w opens
  have connected : Hosts.connect (.file path false) x w.hosts =
      ((x (w.hosts.content path)).1,
        w.hosts.setState (Hosts.plainPath path) (x (w.hosts.content path)).2) := by
    simp only [Hosts.connect, opens]
    rfl
  refine ⟨⟨_, w.log⟩, ?_, w.hosts.content_setState path _, opens⟩
  rw [World.onHosts, Run.onPart, connected]
  rfl

end Worlds

/-- Text without percent signs refers to no other option. -/
theorem Options.expand_plain (o : Options) (name raw : String) (left : Nat) {cs : List Char}
    (plain : '%' ∉ cs) {fuel : Nat} (enough : cs.length ≤ fuel) :
    expand o name raw (left + 1) fuel cs = .ok cs := by
  induction cs generalizing fuel with
  | nil => cases fuel <;> simp [expand]
  | cons c rest ih =>
    rw [List.mem_cons, not_or] at plain
    obtain ⟨other, plain⟩ := plain
    cases fuel with
    | zero => cases enough
    | succ fuel =>
      have expanded := ih plain (Nat.le_of_succ_le_succ enough)
      rw [expand]
      · rw [expanded]
        rfl
      · exact fun _ percent _ => other percent.symm
      · exact fun percent => other percent.symm

theorem Options.get_plain {o : Options} {name raw : String} (set : o.raw? name = some raw)
    (plain : '%' ∉ raw.toList) : o.get name = .ok raw := by
  have expanded : expand o name raw mostSteps raw.length raw.toList = .ok raw.toList :=
    expand_plain o name raw 9 plain (Nat.le_of_eq rfl)
  unfold get
  rw [set]
  dsimp only
  rw [expanded]
  exact congrArg Except.ok String.ofList_toList

/-- A configuration whose URLs, the configured one and the one that commands work with, both name
one file. `o` are the options of a migration. -/
structure Config.OneFile (c : Config) (o : Options) (path : String) : Prop where
  options : c.options .null = .ok o
  configured : (do (← Config.database o).location) = .ok (.file path false)
  commands : (do (← c.commandDatabase o).location) = .ok (.file path false)

section OneFile
variable {c : Config} {o : Options} {path : String}

theorem command_mirrors (one : c.OneFile o path) (x : Run State Unit) :
    Mirrors World.hosts path (command c o x) x := by
  obtain ⟨url, read, location⟩ := ok_of_bind one.commands
  exact quieten_mirrors.after (.given read (.given location (connect_mirrors x)))

theorem upgrade_mirrors (one : c.OneFile o path) (target : String) :
    Mirrors World.hosts path (upgrade c o target) (do
      Run.ofExcept (noRange target)
      State.upgrade target) :=
  (Mirrors.ofExcept _).bind fun _ => command_mirrors one _

theorem downgrade_mirrors (one : c.OneFile o path) (target : String) :
    Mirrors World.hosts path (downgrade c o target) (do
      Run.ofExcept (noRange target)
      State.downgrade target) :=
  (Mirrors.ofExcept _).bind fun _ => command_mirrors one _

/-- Bringing the configured database to the head. -/
theorem toHead_mirrors (one : c.OneFile o path) :
    Mirrors World.hosts path (toHead c .null) State.toHead := by
  obtain ⟨url, read, location⟩ := ok_of_bind one.configured
  obtain ⟨text, get, read⟩ := ok_of_bind read
  have upgraded : Mirrors World.hosts path (upgrade c o "head" >>= fun _ =>
      World.note (Log.info logger "Automation schema is at head")) (State.upgrade "head") :=
    (upgrade_mirrors one "head").before (note_mirrors _)
  have found : (do (← Url.read text).location) = .ok (Location.file path false) := by
    rw [read]
    exact location
  have asked : Mirrors World.hosts path (builtUnmarked text)
      (do return (← Run.read).isUnmarked) := .given found (connect_mirrors _)
  unfold toHead
  refine .given one.options (.given get (asked.bind (g := fun unmarked =>
    if unmarked then State.stamp (.str createdRevision.id) >>= fun _ => State.upgrade "head"
    else State.upgrade "head") fun unmarked => ?_))
  cases unmarked with
  | false => exact upgraded
  | true => exact (note_mirrors _).after ((command_mirrors one _).bind fun _ => upgraded)

end OneFile

/-! ## Histories -/

/-- The commands that a database is kept with. -/
inductive Upkeep where
  | createAll
  | upgrade (target : String)
  | downgrade (target : String)
  | toHead

namespace Upkeep

/-- Carries a command out, on the database at a location or as the configuration says. -/
def run (c : Config) (o : Options) (l : Location) : Upkeep → Run World Unit
  | .createAll => World.onHosts (Hosts.connect l (.change (·.createAll)))
  | .upgrade target => Migration.upgrade c o target
  | .downgrade target => Migration.downgrade c o target
  | .toHead => Migration.toHead c .null

/-- What a command does to a state. -/
def onState : Upkeep → Run State Unit
  | .createAll => .change (·.createAll)
  | .upgrade target => do
    Run.ofExcept (noRange target)
    State.upgrade target
  | .downgrade target => do
    Run.ofExcept (noRange target)
    State.downgrade target
  | .toHead => State.toHead

theorem mirrors {c : Config} {o : Options} {path : String} (one : c.OneFile o path) (u : Upkeep) :
    Mirrors World.hosts path (u.run c o (.file path false)) u.onState := by
  cases u with
  | createAll => exact connect_mirrors _
  | upgrade target => exact upgrade_mirrors one target
  | downgrade target => exact downgrade_mirrors one target
  | toHead => exact toHead_mirrors one

/-- A command that succeeds leads from a sound stage to a sound one. -/
theorem keeps {s s' : State} (h : s.Sound) (u : Upkeep) (done : u.onState s = (.ok (), s')) :
    s'.Sound := by
  cases u with
  | createAll =>
    rw [onState, Run.change, Prod.mk.injEq] at done
    rw [← done.2]
    exact createAll_keeps h
  | upgrade target =>
    obtain ⟨_, _, allowed, done⟩ := Run.ok_of_bind done
    obtain ⟨-, rfl⟩ := Run.ok_of_ofExcept allowed
    exact upgrade_keeps h done
  | downgrade target =>
    obtain ⟨_, _, allowed, done⟩ := Run.ok_of_bind done
    obtain ⟨-, rfl⟩ := Run.ok_of_ofExcept allowed
    exact downgrade_keeps h done
  | toHead => exact toHead_keeps h done

end Upkeep

/-- The worlds that commands lead to, each of which succeeds. -/
inductive Kept (c : Config) (o : Options) (l : Location) (w₀ : World) : World → Prop where
  | start : Kept c o l w₀ w₀
  | step {w w' : World} (before : Kept c o l w₀ w) (u : Upkeep)
      (done : u.run c o l w = (.ok (), w')) : Kept c o l w₀ w'

/-- One more command, if it succeeds on the state. -/
theorem Kept.and {c : Config} {o : Options} {path : String} (one : c.OneFile o path)
    {w₀ w : World} (before : Kept c o (.file path false) w₀ w)
    (opens : w.hosts.canOpen path = true) (u : Upkeep) {s : State}
    (done : u.onState (w.hosts.content path) = (.ok (), s)) :
    ∃ w', Kept c o (.file path false) w₀ w' ∧ w'.hosts.content path = s ∧
      w'.hosts.canOpen path = true := by
  obtain ⟨w', ran, content, opens'⟩ := u.mirrors one w opens
  rw [done] at ran content
  exact ⟨w', before.step u ran, content, opens'⟩

/-- An empty database is kept at sound stages. -/
theorem Kept.sound {c : Config} {o : Options} {path : String} (one : c.OneFile o path)
    {w₀ w : World} (empty : w₀.hosts.content path = {}) (opens : w₀.hosts.canOpen path = true)
    (kept : Kept c o (.file path false) w₀ w) :
    (w.hosts.content path).Sound ∧ w.hosts.canOpen path = true := by
  induction kept with
  | start =>
    rw [empty]
    exact ⟨State.empty_sound, opens⟩
  | step before u done ih =>
    obtain ⟨sound, opens⟩ := ih
    obtain ⟨w', ran, content, opens'⟩ := u.mirrors one _ opens
    obtain ⟨result, rfl⟩ := Prod.mk.inj (done.symm.trans ran)
    rw [content]
    exact ⟨u.keeps sound (Prod.ext result.symm rfl), opens'⟩

end Migration

namespace App

open Migration (Mirrors Kept allTables marksAt headId head)

/-! ## The start -/

section Start
variable {c : Config} {path : String}

theorem lookForTables_apply (c : Config) (v : World) :
    ∃ v', lookForTables c v = (.ok (), v') ∧ v'.hosts = v.hosts := by
  refine ⟨_, rfl, ?_⟩
  dsimp only
  split <;> rfl

theorem lookForTables_mirrors (c : Config) :
    Mirrors World.hosts path (lookForTables c) (pure ()) := by
  intro v opens
  obtain ⟨v', looked, hosts⟩ := lookForTables_apply c v
  exact ⟨v', looked, by rw [hosts]; rfl, by rwa [hosts]⟩

theorem onMigration_mirrors {x : Run Migration.World α} {y : Run Migration.State α}
    (h : Mirrors Migration.World.hosts path x y) :
    Mirrors World.hosts path (World.onMigration x) y := by
  intro v opens
  obtain ⟨m, ran, content, opens'⟩ := h ⟨v.hosts, v.engine.log⟩ opens
  refine ⟨{ v with hosts := m.hosts, engine.log := m.log }, ?_, content, opens'⟩
  rw [World.onMigration, Run.onPart, ran]

theorem createTables_mirrors (own : c.database = .file path false) :
    Mirrors World.hosts path (createTables c) (.change (·.createAll)) := by
  unfold createTables
  rw [own]
  exact (onMigration_mirrors (Migration.connect_mirrors _)).before (lookForTables_mirrors c)

theorem migrate_mirrors {o : Migration.Options} (one : c.migration.OneFile o path) :
    Mirrors World.hosts path (migrate c) Migration.State.toHead := by
  intro v opens
  obtain ⟨v₁, ran, content, opens₁⟩ := onMigration_mirrors (Migration.toHead_mirrors one) v opens
  obtain ⟨v₂, looked, hosts⟩ := lookForTables_apply c v₁
  refine ⟨v₂, ?_, by rw [hosts, content], by rwa [hosts]⟩
  rw [migrate, Run.bind_of_ok (Run.attempt_apply _ v), ran, Run.bind_of_ok looked]
  rfl

theorem step_ok {x : Run World Unit} {v v' : World} (h : x v = (.ok (), v')) (stops : Bool)
    (what : String) : step stops what x v = (.ok (), v') := by
  rw [step, Run.bind_of_ok (Run.attempt_apply x v), h]
  rfl

/-- What a failed part of the start leaves in the log. -/
def failed (what : String) (e : Fault) (v : World) : World :=
  { v with
    engine.log := v.engine.log ++
      [.record (Log.failure logger (what ++ " failed") [] e.text)] }

theorem step_error {x : Run World Unit} {v v' : World} {e : Fault} (h : x v = (.error e, v'))
    (stops : Bool) (what : String) :
    step stops what x v = (if stops then .error e else .ok (), failed what e v') := by
  rw [step, Run.bind_of_ok (Run.attempt_apply x v), h]
  cases stops <;> rfl

/-- The start with both parts, the first of which succeeds. -/
theorem prepare_apply {v v₁ : World} (creates : c.setup.settings.createTables.truthy = true)
    (migrates : c.setup.settings.runMigrations.truthy = true)
    (created : createTables c v = (.ok (), v₁)) (stops : Bool) :
    prepare c stops v = step stops "DB migrations" (migrate c) v₁ := by
  unfold prepare
  rw [if_pos creates, Run.bind_of_ok (step_ok created stops _)]
  dsimp only
  rw [if_pos migrates]

/-- What the start does to the database, and how it ends: migrating decides. -/
theorem prepare_outcome {o : Migration.Options} (one : c.migration.OneFile o path)
    (own : c.database = .file path false)
    (creates : c.setup.settings.createTables.truthy = true)
    (migrates : c.setup.settings.runMigrations.truthy = true) {v : World}
    (opens : v.hosts.canOpen path = true) {r : Except Fault Unit} {s : Migration.State}
    (outcome : Migration.State.toHead (v.hosts.content path).createAll = (r, s)) :
    ∃ v', v'.hosts.content path = s ∧
      (r = .ok () → ∀ stops, prepare c stops v = (.ok (), v')) ∧
      ∀ e, r = .error e →
        (∀ stops, prepare c stops v = (if stops then .error e else .ok (), v')) ∧
          .record (Log.failure logger "DB migrations failed" [] e.text) ∈ v'.engine.log := by
  obtain ⟨v₁, created, content₁, opens₁⟩ := createTables_mirrors own v opens
  obtain ⟨v₂, migrated, content₂, -⟩ := migrate_mirrors one v₁ opens₁
  rw [Run.change] at content₁ created
  dsimp only at content₁ created
  rw [content₁, outcome] at migrated content₂
  have prepared := prepare_apply creates migrates created
  cases r with
  | ok u =>
    refine ⟨v₂, content₂, fun _ stops => ?_, fun e failure => ?_⟩
    · rw [prepared, step_ok migrated]
    · cases failure
  | error e =>
    refine ⟨failed "DB migrations" e v₂, content₂, fun done => ?_, fun e' failure => ?_⟩
    · cases done
    · cases failure
      refine ⟨fun stops => ?_, List.mem_append_right _ (List.mem_singleton_self _)⟩
      rw [prepared, step_error migrated]

/-- The start of a service that creates tables and migrates, on a database that was empty at first
and then was kept with commands that all succeeded. It leaves all tables there and touches none that
was there before. Where the database has no marks or is at the head, nothing fails and the database
is at the head afterwards. At any other place migrating fails, since a table that is there cannot be
created; that stops the start in production only, and the place stays the same. -/
theorem start_converges {o : Migration.Options} {w₀ w : Migration.World}
    (one : c.migration.OneFile o path) (own : c.database = .file path false)
    (creates : c.setup.settings.createTables.truthy = true)
    (migrates : c.setup.settings.runMigrations.truthy = true)
    (empty : w₀.hosts.content path = {}) (opens : w₀.hosts.canOpen path = true)
    (kept : Kept c.migration o c.database w₀ w) {v : World} (same : v.hosts = w.hosts) :
    ∃ v' : World, (w.hosts.content path).Completed (v'.hosts.content path) ∧
      ((w.hosts.content path).version = none ∨
        ∃ p ≤ head, (w.hosts.content path).version = some (marksAt p)) ∧
      ((w.hosts.content path).version = none ∨
          (w.hosts.content path).version = some (marksAt head) →
        (∀ stops, prepare c stops v = (.ok (), v')) ∧
          (v'.hosts.content path).version = some (marksAt head)) ∧
      (∀ p < head, (w.hosts.content path).version = some (marksAt p) →
        (∀ stops, prepare c stops v = (if stops then .error .database else .ok (), v')) ∧
          .record (Log.failure logger "DB migrations failed" [] Fault.database.text) ∈
            v'.engine.log ∧
          (v'.hosts.content path).version = some (marksAt p)) ∧
      ∀ (s : Migration.State) (t : Migration.Layout), s.has t.name = true →
        Migration.State.run t.creation s = (.error .database, s) := by
  rw [own] at kept
  obtain ⟨sound, opens'⟩ := kept.sound one empty opens
  rw [← same] at opens' sound ⊢
  have again (s : Migration.State) (t : Migration.Layout) (there : s.has t.name = true) :
      Migration.State.run t.creation s = (.error .database, s) := by
    have refused := Migration.State.run_creation_there there []
    rwa [List.append_nil] at refused
  obtain ⟨s', completed, ⟨ready, done, atHead⟩ | ⟨p, hp, place, refused, stays⟩⟩ :=
    Migration.toHead_completed sound
  · obtain ⟨v', rfl, prepared, -⟩ := prepare_outcome one own creates migrates opens' done
    refine ⟨v', completed, ?_, fun _ => ⟨prepared rfl, atHead⟩, fun q hq elsewhere => ?_, again⟩
    · exact ready.imp_right fun there => ⟨head, Nat.le_refl head, there⟩
    · rcases ready with unmarked | there
      · rw [unmarked] at elsewhere
        cases elsewhere
      · have marks := Option.some.inj (there.symm.trans elsewhere)
        have := Migration.marksAt_injective (Nat.le_refl head) (Nat.le_of_lt hq) marks
        omega
  · obtain ⟨v', rfl, -, failure⟩ := prepare_outcome one own creates migrates opens' refused
    obtain ⟨prepared, logged⟩ := failure _ rfl
    refine ⟨v', completed, .inr ⟨p, Nat.le_of_lt hp, place⟩, ?_, fun q hq elsewhere => ?_, again⟩
    · rintro (unmarked | there)
      · rw [unmarked] at place
        cases place
      · have marks := Option.some.inj (place.symm.trans there)
        have := Migration.marksAt_injective (Nat.le_of_lt hp) (Nat.le_refl head) marks
        omega
    · refine ⟨prepared, logged, ?_⟩
      rw [stays, ← place, elsewhere]

end Start

/-! ## A database on disk -/

/-- A service that creates tables and migrates, with the database that is used by default. -/
def keeping : Config where
  setup := { settings := { runMigrations := .bool true } }
  migration := { settingsUrl := ({} : Settings).databaseUrl }
  database := .file "./linxio_automation.db" false

/-- The options of its migrations. -/
def keepingOptions : Migration.Options :=
  (keeping.migration.options .null).toOption.getD []

theorem keeping_oneFile : keeping.migration.OneFile keepingOptions "./linxio_automation.db" := by
  have url : keepingOptions.get Migration.Config.urlOption =
      .ok "sqlite+pysqlite:///./linxio_automation.db" :=
    Migration.Options.get_plain rfl (by decide +kernel)
  have located : (do (← Migration.Url.read "sqlite+pysqlite:///./linxio_automation.db").location) =
      .ok (Migration.Location.file "./linxio_automation.db" false) :=
    ok_of_toOption (by decide +kernel)
  refine ⟨rfl, ?_, ?_⟩
  · rw [Migration.Config.database, url]
    exact located
  · show (do (← Migration.Config.database keepingOptions).location) = _
    rw [Migration.Config.database, url]
    exact located

theorem keeping_opens :
    ({} : Migration.World).hosts.canOpen "./linxio_automation.db" = true := by
  decide +kernel

/-- The world in which a service starts that has nothing but its database. -/
def startingOn (hosts : Migration.Hosts) : World where
  engine := { store := { db := {}, used := fun _ => 0, now := ⟨⟨2024, 1, 1⟩, 0, 0, 0, 0⟩ } }
  hosts := hosts

theorem a_database_at_the_head_converges :
    ∃ w v', Kept keeping.migration keepingOptions keeping.database {} w ∧
      (∀ stops, prepare keeping stops (startingOn w.hosts) = (.ok (), v')) ∧
      (v'.hosts.content "./linxio_automation.db").version = some [headId] := by
  have facts : ((Migration.Upkeep.upgrade "head").onState {}).1.isOk = true ∧
      ((Migration.Upkeep.upgrade "head").onState {}).2.version = some (marksAt head) := by
    decide +kernel
  rcases done : (Migration.Upkeep.upgrade "head").onState {} with ⟨e | ⟨⟩, s⟩
  · rw [done] at facts
    cases facts.1
  · rw [done] at facts
    obtain ⟨w, kept, content, -⟩ := Kept.start.and keeping_oneFile keeping_opens _ done
    obtain ⟨v', -, -, converges, -⟩ := start_converges (v := startingOn w.hosts) keeping_oneFile
      rfl (by decide) (by decide) rfl keeping_opens kept rfl
    refine ⟨w, v', kept, converges (.inr ?_)⟩
    rw [content, facts.2]

/-- A database that was brought to the first revision only cannot be started on. -/
theorem a_database_below_the_head_stays_behind :
    ∃ w v', (Migration.Upkeep.upgrade "20261017_01").run keeping.migration keepingOptions
        keeping.database {} = (.ok (), w) ∧
      prepare keeping true (startingOn w.hosts) = (.error .database, v') ∧
      (v'.hosts.content "./linxio_automation.db").version = some ["20261017_01"] := by
  have facts : ((Migration.Upkeep.upgrade "20261017_01").onState {}).1.isOk = true ∧
      ((Migration.Upkeep.upgrade "20261017_01").onState {}).2.version = some (marksAt 1) := by
    decide +kernel
  rcases done : (Migration.Upkeep.upgrade "20261017_01").onState {} with ⟨e | ⟨⟩, s⟩
  · rw [done] at facts
    cases facts.1
  · rw [done] at facts
    obtain ⟨w, ran, content, opens⟩ :=
      (Migration.Upkeep.upgrade "20261017_01").mirrors keeping_oneFile {} keeping_opens
    have sound : s.Sound := Migration.Upkeep.keeps Migration.State.empty_sound _ done
    change _ = (((Migration.Upkeep.upgrade "20261017_01").onState {}).1, w) at ran
    change _ = ((Migration.Upkeep.upgrade "20261017_01").onState {}).2 at content
    rw [done] at ran content
    subst content
    obtain ⟨s', -, ⟨ready, -, -⟩ | ⟨p, -, place, refused, stays⟩⟩ :=
      Migration.toHead_completed sound
    · rw [facts.2] at ready
      exact absurd ready (by decide)
    · obtain ⟨v', rfl, -, failure⟩ := prepare_outcome (v := startingOn w.hosts) keeping_oneFile
        rfl (by decide) (by decide) opens refused
      refine ⟨w, v', ran, (failure _ rfl).1 true, ?_⟩
      rw [stays, ← place, facts.2]
      rfl

end App
end TaskRules
