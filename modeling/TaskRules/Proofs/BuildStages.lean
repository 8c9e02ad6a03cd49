import TaskRules.Migration.Automatic
import TaskRules.Proofs.RevisionPlans
import TaskRules.Proofs.TableChanges

/-!
Stages of a database: which revisions' tables are there, and which place of the chain it is marked
as being at, if it has marks at all. Above the place that is marked there can be tables that the
mark knows nothing of: creating all tables leaves the marks alone, and so may be followed by
commands that go by them.

Proved:
- `climb_step`, `descend_step`: what carrying a revision out and taking it back make of a stage.
- `upgrade_keeps`, `downgrade_keeps`, `toHead_keeps`: every command leads from sound stages to sound
  ones.
- `climb_absent`, `upgrade_empty`: where no later tables are in the way, every revision is carried out.
- `toHead_converges`, `toHead_refused`: once all tables have been created, a database gets to the
  head when it has no marks or is there already; at any other place migrating fails.
-/

namespace TaskRules.Migration

structure Stage where
  /-- Whether a revision's tables are there. -/
  has : Nat → Bool
  /-- The place that the marks stand for; `none` without the table of marks. -/
  place : Option Nat

namespace Stage

/-- The tables that are there. -/
def tables (g : Stage) : List Layout :=
  (chain.zipIdx 1).flatMap fun r => if g.has r.2 then r.1.tables else []

/-- The stage with a revision's tables created or removed, marked as being at a place. -/
def moved (g : Stage) (number : Nat) (there : Bool) (place : Nat) : Stage where
  has n := if n = number then there else g.has n
  place := some place

/-- The stage with all tables. -/
def full (place : Option Nat) : Stage := ⟨fun _ => true, place⟩

/-- The stages that commands lead to. Without marks the tables of all revisions are there or none;
with them, those of all revisions up to the marked place, and above it those of the last ones. -/
def Sound (g : Stage) : Prop :=
  match g.place with
  | none => ∀ m n, g.has m = g.has n
  | some p => p ≤ head ∧ (∀ n, 1 ≤ n → n ≤ p → g.has n = true) ∧
      ∀ n, p < n → n < head → g.has n = true → g.has (n + 1) = true

/-- The tables of a revision. -/
def tablesOf (number : Nat) : List Layout := ((chain[number - 1]?).map (·.tables)).getD []

end Stage

/-- A state at a stage. -/
structure State.At (s : State) (g : Stage) : Prop where
  holds : s.Holds g.tables
  version : s.version = g.place.map marksAt

/-! ## The tables of a stage -/

theorem allTables_apart : Apart allTables := ⟨by decide +kernel, by decide +kernel⟩

namespace Stage

theorem tables_full (place : Option Nat) : (full place).tables = allTables := rfl

theorem tables_parts (g : Stage) :
    g.tables = (if g.has 1 then hostRevision.tables else []) ++
      if g.has 2 then automationRevision.tables else [] := by
  simp [tables, chain]

theorem tables_sublist (g : Stage) : g.tables.Sublist allTables := by
  have all : allTables = (chain.zipIdx 1).flatMap fun r => r.1.tables := rfl
  rw [all, tables]
  refine List.Sublist.flatMap_right _ fun r _ => ?_
  split
  · exact List.Sublist.refl _
  · exact List.nil_sublist _

theorem tables_apart (g : Stage) : Apart g.tables := allTables_apart.sublist g.tables_sublist

/-- The tables of a stage at which a revision has been carried out: the revision's, and those
before. -/
theorem tables_moved {g : Stage} {p : Nat} (hp : p < head) (absent : g.has (p + 1) = false)
    (place : Nat) :
    (g.moved (p + 1) true place).tables.Perm (tablesOf (p + 1) ++ g.tables) := by
  rcases place_cases hp with h | h | h <;> cases h <;>
    simp [tables, tablesOf, moved, chain, absent, List.perm_append_comm]

/-- The tables of a stage at which a revision is there: the revision's, and those without it. -/
theorem tables_lacking {g : Stage} {p : Nat} (hp : p < head) (there : g.has (p + 1) = true)
    (place : Nat) :
    g.tables.Perm (tablesOf (p + 1) ++ (g.moved (p + 1) false place).tables) := by
  rcases place_cases hp with h | h | h <;> cases h <;>
    simp [tables, tablesOf, moved, chain, there, List.perm_append_comm]

end Stage

/-! ## Steps -/

open State (statementsOf run climb descend)

theorem upward_eq {p : Nat} (hp : p < head) :
    statementsOf (p + 1) Revision.upward = (Stage.tablesOf (p + 1)).flatMap Layout.creation := by
  rcases place_cases hp with h | h | h <;> cases h <;> rfl

theorem downward_eq {p : Nat} (hp : p < head) :
    statementsOf (p + 1) Revision.downward =
      (Stage.tablesOf (p + 1)).reverse.flatMap Layout.removal := by
  rcases place_cases hp with h | h | h <;> cases h <;> rfl

/-- Every revision has tables. -/
theorem tablesOf_cons {p : Nat} (hp : p < head) : ∃ t ts, Stage.tablesOf (p + 1) = t :: ts := by
  rcases place_cases hp with h | h | h <;> cases h <;> exact ⟨_, _, rfl⟩

theorem State.Leads.congr {ts ts' us us' : List Layout} {qs : List Statement}
    (h : State.Leads ts qs us) (before : ts'.Perm ts) (after : us.Perm us') :
    State.Leads ts' qs us' := by
  intro s hs
  obtain ⟨s', ran, holds, version⟩ := h s (hs.perm before)
  exact ⟨s', ran, holds.perm after, version⟩

section Steps
variable {s : State} {g : Stage} {p : Nat}

theorem upward_leads (hp : p < head) (absent : g.has (p + 1) = false) (place : Nat) :
    State.Leads g.tables (statementsOf (p + 1) Revision.upward)
      (g.moved (p + 1) true place).tables := by
  have more := Stage.tables_moved hp absent place
  have turned : ((Stage.tablesOf (p + 1)).reverse ++ g.tables).Perm
      (g.moved (p + 1) true place).tables :=
    ((List.reverse_perm _).append_right _).trans more.symm
  rw [upward_eq hp]
  exact (State.creations_lead ((Stage.tables_apart _).perm turned.symm)).congr (.refl _) turned

theorem downward_leads (hp : p < head) (there : g.has (p + 1) = true) (place : Nat) :
    State.Leads g.tables (statementsOf (p + 1) Revision.downward)
      (g.moved (p + 1) false place).tables := by
  have turned : g.tables.Perm
      ((Stage.tablesOf (p + 1)).reverse ++ (g.moved (p + 1) false place).tables) :=
    (Stage.tables_lacking hp there place).trans ((List.reverse_perm _).symm.append_right _)
  rw [downward_eq hp]
  exact (State.removals_lead ((Stage.tables_apart g).perm turned)).congr turned (.refl _)

theorem State.At.versions (h : s.At g) (at' : g.place = some p) : s.versions = marksAt p := by
  rw [State.versions, h.version, at']
  rfl

/-- A change of the marks. -/
theorem mark_apply {change : MarkChange} {p q : Nat} (h : s.versions = marksAt p)
    (moves : Marks.apply (marksAt p) change = .ok (marksAt q)) :
    State.mark [change] s = (.ok (), s.setVersions (marksAt q)) := by
  have all : Marks.applyAll s.versions [change] = .ok (marksAt q) := by
    rw [h, Marks.applyAll, List.foldlM_cons, moves]
    rfl
  show (Run.ofExcept (Marks.applyAll s.versions [change]) >>= _) s = _
  rw [all]
  rfl

/-- A revision that is not there yet is carried out. -/
theorem climb_step (hp : p < head) (h : s.At g) (at' : g.place = some p)
    (absent : g.has (p + 1) = false) (rest : List Nat) :
    ∃ s', climb ((p + 1) :: rest) s = climb rest s' ∧ s'.At (g.moved (p + 1) true (p + 1)) := by
  obtain ⟨s₁, ran, holds, version⟩ := upward_leads hp absent (p + 1) s h.holds
  have before : s₁.versions = marksAt p := by
    rw [State.versions, version, ← State.versions, h.versions at']
  have marked := mark_apply before (afterUpgrade_marksAt hp)
  refine ⟨s₁.setVersions (marksAt (p + 1)), ?_, holds, rfl⟩
  rw [climb, Run.bind_of_ok ran]
  show (State.mark [Marks.afterUpgrade s₁.versions (p + 1)] >>= fun _ => climb rest) s₁ = _
  rw [before, Run.bind_of_ok marked]

/-- Where the tables of a revision are there, it cannot be carried out. -/
theorem climb_refused (hp : p < head) (h : s.At g) (there : g.has (p + 1) = true)
    (rest : List Nat) : climb ((p + 1) :: rest) s = (.error .database, s) := by
  obtain ⟨t, ts, first⟩ := tablesOf_cons hp
  have found : s.has t.name = true := by
    have mem : t ∈ g.tables := by
      rw [(Stage.tables_lacking hp there p).mem_iff, first]
      exact List.mem_append_left _ (List.mem_cons_self ..)
    rw [h.holds.has, List.any_eq_true]
    exact ⟨t, mem, sameName_self t.name⟩
  have refused := State.run_creation_there found (ts.flatMap Layout.creation)
  rw [climb, upward_eq hp, first, List.flatMap_cons, Run.bind_of_error refused]

/-- A revision that is there is taken back. -/
theorem descend_step (hp : p < head) (h : s.At g) (at' : g.place = some (p + 1))
    (there : g.has (p + 1) = true) (rest : List Nat) :
    ∃ s', descend ((p + 1) :: rest) s = descend rest s' ∧ s'.At (g.moved (p + 1) false p) := by
  obtain ⟨s₁, ran, holds, version⟩ := downward_leads hp there p s h.holds
  have before : s₁.versions = marksAt (p + 1) := by
    rw [State.versions, version, ← State.versions, h.versions at']
  obtain ⟨change, below, moves⟩ := afterDowngrade_marksAt hp
  have marked := mark_apply before moves
  refine ⟨s₁.setVersions (marksAt p), ?_, holds, rfl⟩
  rw [descend, Run.bind_of_ok ran]
  show (Run.ofExcept (Marks.afterDowngrade s₁.versions (p + 1)) >>= fun change =>
    State.mark [change] >>= fun _ => descend rest) s₁ = _
  rw [before, below]
  show (State.mark [change] >>= fun _ => descend rest) s₁ = _
  rw [Run.bind_of_ok marked]

end Steps

/-! ## Runs -/

namespace Stage.Sound
variable {g : Stage} {p : Nat}

theorem at_place (h : g.Sound) (at' : g.place = some p) :
    p ≤ head ∧ (∀ n, 1 ≤ n → n ≤ p → g.has n = true) ∧
      ∀ n, p < n → n < head → g.has n = true → g.has (n + 1) = true := by
  unfold Sound at h
  rwa [at'] at h

theorem full {place : Option Nat} (h : ∀ p, place = some p → p ≤ head) :
    (Stage.full place).Sound := by
  cases place with
  | none => exact fun _ _ => rfl
  | some p => exact ⟨h p rfl, fun _ _ _ => rfl, fun _ _ _ _ => rfl⟩

theorem up (h : g.Sound) (at' : g.place = some p) (hp : p < head) :
    (g.moved (p + 1) true (p + 1)).Sound := by
  obtain ⟨-, below, above⟩ := h.at_place at'
  refine ⟨hp, fun n first last => ?_, fun n first last there => ?_⟩
  · by_cases new : n = p + 1
    · simp [moved, new]
    · simpa [moved, new] using below n first (by omega)
  · have old : n ≠ p + 1 := by omega
    have next : n + 1 ≠ p + 1 := by omega
    simp only [moved, old, next, if_false] at there ⊢
    exact above n (by omega) last there

theorem down (h : g.Sound) (at' : g.place = some (p + 1)) :
    (g.moved (p + 1) false p).Sound := by
  obtain ⟨most, below, above⟩ := h.at_place at'
  refine ⟨by omega, fun n first last => ?_, fun n first last there => ?_⟩
  · have old : n ≠ p + 1 := by omega
    simpa [moved, old] using below n first (by omega)
  · by_cases gone : n = p + 1
    · simp [moved, gone] at there
    · have next : n + 1 ≠ p + 1 := by omega
      simp only [moved, gone, next, if_false] at there ⊢
      exact above n (by omega) last there

end Stage.Sound

/-- A state at a stage that commands can lead to. -/
def State.Sound (s : State) : Prop := ∃ g, s.At g ∧ g.Sound

/-- An empty database has neither tables nor marks. -/
theorem State.empty_sound : ({} : State).Sound :=
  ⟨⟨fun _ => false, none⟩, ⟨List.Perm.nil, rfl⟩, fun _ _ => rfl⟩

section Keeping
variable {s s' : State} {g : Stage} {p : Nat}

/-- What is carried out without an error leads to a sound stage. -/
theorem climb_keeps {q : Nat} (hq : q ≤ head) (h : s.At g) (sound : g.Sound)
    (at' : g.place = some p) (done : climb (between p q) s = (.ok (), s')) : s'.Sound := by
  induction left : q - p generalizing s g p with
  | zero =>
    rw [between_of_le (by omega)] at done
    cases done
    exact ⟨g, h, sound⟩
  | succ n ih =>
    have hp : p < head := by omega
    rw [between_cons (by omega)] at done
    -- tables that the mark knows nothing of are in the way of the next revision
    cases there : g.has (p + 1) with
    | true =>
      rw [climb_refused hp h there] at done
      cases done
    | false =>
      obtain ⟨s₁, went, h₁⟩ := climb_step hp h at' there (between (p + 1) q)
      rw [went] at done
      exact ih h₁ (sound.up at' hp) rfl done (by omega)

/-- Where no tables of the revisions above the mark are there, these revisions are carried out. -/
theorem climb_absent {q : Nat} (hp : p ≤ q) (hq : q ≤ head) (h : s.At g) (at' : g.place = some p)
    (absent : ∀ n, p < n → g.has n = false) :
    ∃ s', climb (between p q) s = (.ok (), s') ∧ s'.version = some (marksAt q) := by
  induction left : q - p generalizing s g p with
  | zero =>
    obtain rfl : p = q := by omega
    rw [between_of_le (Nat.le_refl p)]
    exact ⟨s, rfl, by rw [h.version, at']; rfl⟩
  | succ n ih =>
    obtain ⟨s₁, went, h₁⟩ :=
      climb_step (by omega) h at' (absent (p + 1) (Nat.lt_succ_self p)) (between (p + 1) q)
    rw [between_cons (by omega), went]
    refine ih (by omega) h₁ rfl (fun m above => ?_) (by omega)
    exact (if_neg (by omega)).trans (absent m (by omega))

/-- What is taken back leads to a sound stage. -/
theorem descend_keeps {q : Nat} (h : s.At g) (sound : g.Sound) (at' : g.place = some p) :
    ∃ s', descend (between q p).reverse s = (.ok (), s') ∧ s'.Sound := by
  induction p generalizing s g with
  | zero =>
    rw [between_of_le (Nat.zero_le q)]
    exact ⟨s, rfl, g, h, sound⟩
  | succ p ih =>
    rcases Nat.lt_or_ge p q with above | below
    · rw [between_of_le above]
      exact ⟨s, rfl, g, h, sound⟩
    · obtain ⟨most, all, -⟩ := sound.at_place at'
      have there := all (p + 1) (by omega) (Nat.le_refl _)
      obtain ⟨s₁, went, h₁⟩ := descend_step most h at' there (between q p).reverse
      rw [between_succ below, List.reverse_append, List.reverse_singleton, List.singleton_append,
        went]
      exact ih h₁ (sound.down at') rfl

/-- Every command begins with a table of marks, which is empty if it is new. -/
theorem State.Sound.opened (h : s.Sound) :
    ∃ g p, s.withVersionTable.At g ∧ g.Sound ∧ g.place = some p ∧ p ≤ head ∧
      s.withVersionTable.versions = marksAt p := by
  obtain ⟨g, at', sound⟩ := h
  obtain ⟨has, place⟩ := g
  cases place with
  | none =>
    have version : s.withVersionTable.version = some [] := by
      show some s.versions = _
      rw [State.versions, at'.version]
      rfl
    refine ⟨⟨has, some 0⟩, 0, ⟨at'.holds, version⟩, ⟨Nat.zero_le _, fun n _ _ => by omega, ?_⟩, rfl,
      Nat.zero_le _, ?_⟩
    · intro n _ _ there
      rwa [← sound n (n + 1)]
    · rw [State.versions, version]
      rfl
  | some p =>
    have version : s.withVersionTable.version = some (marksAt p) := by
      show some s.versions = _
      rw [at'.versions rfl]
    refine ⟨⟨has, some p⟩, p, ⟨at'.holds, version⟩, sound, rfl, (sound.at_place rfl).1, ?_⟩
    rw [State.versions, version]
    rfl

theorem upgrade_keeps {target : String} (h : s.Sound)
    (done : State.upgrade target s = (.ok (), s')) : s'.Sound := by
  obtain ⟨g, p, at', sound, place, most, versions⟩ := h.opened
  have climbed : (Run.ofExcept (upgradePlan s.withVersionTable.versions target) >>= climb)
      s.withVersionTable = (.ok (), s') := done
  rw [versions] at climbed
  obtain ⟨plan, s₁, given, climbed⟩ := Run.ok_of_bind climbed
  obtain ⟨planned, rfl⟩ := Run.ok_of_ofExcept given
  obtain ⟨q, hq, rfl⟩ := upgradePlan_between most target plan planned
  exact climb_keeps hq at' sound place climbed

theorem downgrade_keeps {target : String} (h : s.Sound)
    (done : State.downgrade target s = (.ok (), s')) : s'.Sound := by
  obtain ⟨g, p, at', sound, place, most, versions⟩ := h.opened
  have descended : (Run.ofExcept (downgradePlan s.withVersionTable.versions target) >>= descend)
      s.withVersionTable = (.ok (), s') := done
  rw [versions] at descended
  obtain ⟨plan, s₁, given, descended⟩ := Run.ok_of_bind descended
  obtain ⟨planned, rfl⟩ := Run.ok_of_ofExcept given
  obtain ⟨q, -, rfl⟩ := downgradePlan_between most target plan planned
  obtain ⟨s₂, went, sound₂⟩ := descend_keeps (q := q) at' sound place
  obtain ⟨-, rfl⟩ := Prod.mk.inj (went.symm.trans descended)
  exact sound₂

/-! ## Creating all tables -/

theorem Stage.tables_completed (g : Stage) :
    (g.tables ++ allTables.filter fun u =>
      !g.tables.any fun t => sameName t.name u.name).Perm allTables := by
  rw [g.tables_parts]
  cases g.has 1 <;> cases g.has 2 <;> decide +kernel

/-- Creating all tables leaves the tables that are there, their rows and the marks as they are. -/
theorem createAll_eq (s : State) :
    s.createAll =
      { s with
        tables := s.tables ++
          (allTables.filter fun u => !s.has u.name).map fun u => ⟨u.withoutDefaults, []⟩ } :=
  State.foldl_createMissing allTables_apart.names s

theorem createAll_at (h : s.At g) : s.createAll.At (Stage.full g.place) := by
  rw [createAll_eq]
  refine ⟨?_, h.version⟩
  have free : (allTables.filter fun u => !s.has u.name) =
      allTables.filter fun u => !g.tables.any fun t => sameName t.name u.name :=
    List.filter_congr fun u _ => by rw [h.holds.has]
  rw [State.Holds, Stage.tables_full, List.map_append, List.map_map, free]
  refine List.Perm.trans ?_ (g.tables_completed.map Layout.withoutDefaults)
  rw [List.map_append]
  refine List.Perm.append h.holds (List.Perm.of_eq ?_)
  exact List.map_congr_left fun u _ => by simp [Layout.withoutDefaults]

/-- What creating all tables leaves: those that were missing are new, the others as before. -/
structure State.Completed (s s' : State) : Prop where
  tables : s'.tables = s.tables ++
    (allTables.filter fun u => !s.has u.name).map fun u => ⟨u.withoutDefaults, []⟩
  holds : s'.Holds allTables

theorem createAll_completed (h : s.At g) : s.Completed s.createAll where
  tables := by rw [createAll_eq]
  holds := (createAll_at h).holds

theorem State.Completed.setVersions (h : s.Completed s') (marks : Marks) :
    s.Completed (s'.setVersions marks) := ⟨h.tables, h.holds⟩

theorem createAll_keeps (h : s.Sound) : s.createAll.Sound := by
  obtain ⟨g, at', sound⟩ := h
  exact ⟨_, createAll_at at', .full fun p place => (sound.at_place place).1⟩

/-! ## To the head -/

/-- Brings a database to the head, after marking one that was built without migrations. -/
def State.toHead : Run State Unit := do
  if (← Run.read).isUnmarked then State.stamp (.str createdRevision.id)
  State.upgrade "head"

theorem isUnmarked_at (h : s.At g) : s.isUnmarked = (g.place.isNone && g.has 2) := by
  have version : s.version.isNone = g.place.isNone := by
    rw [h.version, Option.isNone_map]
  have found : (automationRevision.tables.all fun t => s.has t.name) = g.has 2 := by
    simp only [h.holds.has, g.tables_parts]
    cases g.has 1 <;> cases g.has 2 <;> decide +kernel
  rw [State.isUnmarked, version, found]

theorem stamp_unmarked (h : s.version = none) :
    State.stamp (.str createdRevision.id) s = (.ok (), s.setVersions (marksAt head)) := by
  have versions : s.withVersionTable.versions = [] := by
    rw [State.withVersionTable, State.versions, State.versions, h]
    rfl
  have stamped : State.stamp (.str createdRevision.id) s =
      (Run.ofExcept (Marks.stampChanges s.withVersionTable.versions (.str createdRevision.id)) >>=
        fun changes => changes.forM State.mark) s.withVersionTable := rfl
  have changes : Marks.stampChanges [] (.str createdRevision.id) = .ok [[.insert headId]] := rfl
  rw [stamped, versions, changes]
  show (State.mark [.insert headId] >>= fun _ => pure ()) s.withVersionTable = _
  rw [Run.bind_of_ok (mark_apply (p := 0) (q := head) versions rfl)]
  rfl

/-- An upgrade to the head carries out the revisions above the mark. -/
theorem upgrade_head (h : s.version = some (marksAt p)) (hp : p ≤ head) :
    State.upgrade "head" s = climb (between p head) s := by
  have versions : s.versions = marksAt p := by
    rw [State.versions, h]
    rfl
  have opened : s.withVersionTable = s := by
    rw [State.withVersionTable, versions, ← h]
  have climbed : State.upgrade "head" s =
      (Run.ofExcept (upgradePlan s.withVersionTable.versions "head") >>= climb)
        s.withVersionTable := rfl
  rw [climbed, opened, versions, upgradePlan_head hp]
  rfl

/-- An empty database gets to the head. -/
theorem upgrade_empty :
    ∃ s, State.upgrade "head" {} = (.ok (), s) ∧ s.version = some (marksAt head) := by
  have opened : State.upgrade "head" {} = State.upgrade "head" ({} : State).withVersionTable := rfl
  have empty : ({} : State).withVersionTable.At ⟨fun _ => false, some 0⟩ := ⟨List.Perm.nil, rfl⟩
  rw [opened, upgrade_head rfl (Nat.zero_le head)]
  exact climb_absent (Nat.zero_le head) (Nat.le_refl head) empty rfl fun _ _ => rfl

/-- At the head there is nothing left to do. -/
theorem upgrade_at_head (h : s.version = some (marksAt head)) :
    State.upgrade "head" s = (.ok (), s) := by
  rw [upgrade_head h (Nat.le_refl head), between_of_le (Nat.le_refl head)]
  rfl

theorem toHead_eq (s : State) :
    State.toHead s =
      (if s.isUnmarked then
        State.stamp (.str createdRevision.id) >>= fun _ => State.upgrade "head"
      else State.upgrade "head") s := rfl

theorem toHead_unmarked (h : s.isUnmarked = true) :
    State.toHead s = (.ok (), s.setVersions (marksAt head)) := by
  have version : s.version = none := by
    rw [State.isUnmarked, Bool.and_eq_true] at h
    exact Option.isNone_iff_eq_none.mp h.1
  rw [toHead_eq, h, if_pos rfl, Run.bind_of_ok (stamp_unmarked version)]
  exact upgrade_at_head rfl

theorem toHead_marked (h : s.isUnmarked = false) : State.toHead s = State.upgrade "head" s := by
  rw [toHead_eq, h, if_neg Bool.false_ne_true]

theorem toHead_keeps (h : s.Sound) (done : State.toHead s = (.ok (), s')) : s'.Sound := by
  cases unmarked : s.isUnmarked with
  | false =>
    rw [toHead_marked unmarked] at done
    exact upgrade_keeps h done
  | true =>
    rw [toHead_unmarked unmarked] at done
    cases done
    obtain ⟨g, at', sound⟩ := h
    rw [isUnmarked_at at', Bool.and_eq_true, Option.isNone_iff_eq_none] at unmarked
    obtain ⟨place, there⟩ := unmarked
    have all (n : Nat) : g.has n = true := by
      unfold Stage.Sound at sound
      rw [place] at sound
      rw [sound n 2, there]
    exact ⟨⟨g.has, some head⟩, ⟨at'.holds, rfl⟩, Nat.le_refl head, fun n _ _ => all n,
      fun n _ _ _ => all (n + 1)⟩

/-- A database without marks and one at the head get to the head once all tables are there. -/
theorem toHead_converges (h : s.At g) (ready : g.place = none ∨ g.place = some head) :
    State.toHead s.createAll = (.ok (), s.createAll.setVersions (marksAt head)) := by
  have full := createAll_at h
  have unmarked := isUnmarked_at full
  rcases ready with place | place
  · rw [Stage.full, place] at unmarked
    exact toHead_unmarked unmarked
  · have version : s.createAll.version = some (marksAt head) := by
      rw [full.version, Stage.full, place]
      rfl
    rw [Stage.full, place] at unmarked
    rw [toHead_marked unmarked, upgrade_at_head version, State.setVersions, ← version]

/-- At any other place the tables of the next revision are there before it is carried out. -/
theorem toHead_refused (h : s.At g) (hp : p < head) (place : g.place = some p) :
    State.toHead s.createAll = (.error .database, s.createAll) := by
  have full := createAll_at h
  have unmarked := isUnmarked_at full
  have version : s.createAll.version = some (marksAt p) := by
    rw [full.version, Stage.full, place]
    rfl
  rw [Stage.full, place] at unmarked
  rw [toHead_marked unmarked, upgrade_head version (Nat.le_of_lt hp), between_cons hp]
  exact climb_refused hp full rfl _

/-- Once all tables are there, what migrating does depends on the marks. -/
theorem toHead_completed (h : s.Sound) :
    ∃ s', s.Completed s' ∧
      ((s.version = none ∨ s.version = some (marksAt head)) ∧
          State.toHead s.createAll = (.ok (), s') ∧ s'.version = some (marksAt head) ∨
        ∃ p < head, s.version = some (marksAt p) ∧
          State.toHead s.createAll = (.error .database, s') ∧ s'.version = some (marksAt p)) := by
  obtain ⟨g, at', sound⟩ := h
  have completed := createAll_completed at'
  have version := at'.version
  have kept : s.createAll.version = s.version := by
    rw [createAll_eq]
  have converges (ready : g.place = none ∨ g.place = some head) :=
    toHead_converges at' ready
  cases place : g.place with
  | none =>
    rw [place] at version
    exact ⟨_, completed.setVersions _, .inl ⟨.inl version, converges (.inl place), rfl⟩⟩
  | some p =>
    rw [place] at version
    rcases Nat.lt_or_ge p head with below | above
    · exact ⟨_, completed, .inr ⟨p, below, version, toHead_refused at' below place,
        kept.trans version⟩⟩
    · obtain rfl : p = head := Nat.le_antisymm (sound.at_place place).1 above
      exact ⟨_, completed.setVersions _, .inl ⟨.inr version, converges (.inr place), rfl⟩⟩

end Keeping

end TaskRules.Migration
