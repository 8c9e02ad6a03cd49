import TaskRules.Migration.State
import TaskRules.Proofs.Runs
import Mathlib.Data.List.Flatten
import Mathlib.Data.List.Perm.Basic

/-!
Creating and removing tables. Layouts whose names are different, and whose indexes have different
names, do not get in each other's way: where some of them are there as tables, another one can be
created with all its indexes, and one of them can be removed again.

Proved:
- `creation_leads`, `removal_leads`: the statements of a table succeed, and create or remove it.
- `creations_lead`, `removals_lead`: so do those of several tables.
- `run_creation_there`: a table that is there cannot be created.
- `foldl_createMissing`: creating missing tables adds those whose names are free, and leaves the
  others as they are.
-/

namespace TaskRules.Migration

/-- A name without the case of its letters. -/
def nameKey (name : String) : List Char := name.toList.map Char.toLower

theorem sameName_eq (a b : String) : sameName a b = (nameKey a == nameKey b) := rfl

theorem sameName_self (name : String) : sameName name name = true := by
  rw [sameName_eq, beq_self_eq_true]

/-- Layouts that do not get in each other's way: no two have a name in common, nor two indexes. -/
structure Apart (ts : List Layout) : Prop where
  names : (ts.map fun t => nameKey t.name).Nodup
  indexes : ((ts.flatMap (·.indexes)).map (·.name)).Nodup

namespace Apart

theorem perm {ts us : List Layout} (h : Apart ts) (same : ts.Perm us) : Apart us :=
  ⟨(same.map _).nodup_iff.mp h.names, ((same.flatMap_right _).map _).nodup_iff.mp h.indexes⟩

theorem sublist {ts us : List Layout} (h : Apart us) (sub : ts.Sublist us) : Apart ts :=
  ⟨h.names.sublist (sub.map _), h.indexes.sublist ((sub.flatMap _).map _)⟩

theorem tail {t : Layout} {ts : List Layout} (h : Apart (t :: ts)) : Apart ts :=
  h.sublist (List.sublist_cons_self t ts)

/-- The other layouts have other names. -/
theorem other_name {t : Layout} {ts : List Layout} (h : Apart (t :: ts)) :
    ∀ u ∈ ts, sameName u.name t.name = false := by
  intro u hu
  have names := h.names
  rw [List.map_cons, List.nodup_cons] at names
  rw [sameName_eq, beq_eq_false_iff_ne]
  intro same
  exact names.1 (List.mem_map.mpr ⟨u, hu, same⟩)

/-- The other layouts have other indexes. -/
theorem other_index {t : Layout} {ts : List Layout} (h : Apart (t :: ts)) {i : Index}
    (hi : i ∈ t.indexes) : ∀ u ∈ ts, ∀ j ∈ u.indexes, j.name ≠ i.name := by
  intro u hu j hj same
  have indexes := h.indexes
  rw [List.flatMap_cons, List.map_append, List.nodup_append] at indexes
  refine indexes.2.2 i.name (List.mem_map_of_mem hi) j.name ?_ same.symm
  exact List.mem_map_of_mem (List.mem_flatMap.mpr ⟨u, hu, hj⟩)

/-- The indexes of a layout have names of their own. -/
theorem own_index {t : Layout} {ts : List Layout} (h : Apart (t :: ts)) :
    (t.indexes.map (·.name)).Nodup := by
  have indexes := h.indexes
  rw [List.flatMap_cons, List.map_append, List.nodup_append] at indexes
  exact indexes.1

/-- Layouts stay apart when one of them has fewer indexes. -/
theorem fewer {t : Layout} {ts : List Layout} {is : List Index} (h : Apart (t :: ts))
    (sub : is.Sublist t.indexes) : Apart ({ t with indexes := is } :: ts) := by
  refine ⟨h.names, h.indexes.sublist ?_⟩
  rw [List.flatMap_cons, List.flatMap_cons]
  exact (sub.append_right _).map _

end Apart

namespace State

/-- A state whose tables are of certain layouts, up to the defaults of their columns. -/
def Holds (s : State) (ts : List Layout) : Prop :=
  (s.tables.map (·.layout.withoutDefaults)).Perm (ts.map Layout.withoutDefaults)

section Holds
variable {s : State} {t : Layout} {ts us : List Layout}

theorem Holds.perm (h : s.Holds ts) (same : ts.Perm us) : s.Holds us :=
  List.Perm.trans h (same.map _)

theorem Holds.has (h : s.Holds ts) (name : String) :
    s.has name = ts.any fun t => sameName t.name name := by
  have same := List.Perm.any_eq (f := fun t => sameName t.name name) h
  rwa [List.any_map, List.any_map] at same

theorem Holds.hasIndex (h : s.Holds ts) (name : String) :
    s.hasIndex name = ts.any fun t => t.indexes.any (·.name == name) := by
  have same := List.Perm.any_eq (f := fun t => t.indexes.any (·.name == name)) h
  rwa [List.any_map, List.any_map] at same

theorem Holds.fresh (h : s.Holds ts) (apart : Apart (t :: ts)) : s.has t.name = false := by
  rw [h.has, List.any_eq_false]
  intro u hu
  rw [apart.other_name u hu]
  decide

/-! ## One statement -/

/-- What a change of the tables makes of their layouts. -/
theorem Holds.change (h : s.Holds ts) {f : Stored → Stored} {g : Layout → Layout}
    (does : ∀ u, (f u).layout.withoutDefaults = g u.layout.withoutDefaults)
    (leads : (ts.map Layout.withoutDefaults).map g = us.map Layout.withoutDefaults) :
    State.Holds { s with tables := s.tables.map f } us := by
  have changed := h.map g
  have same : (fun u : Stored => u.layout.withoutDefaults) ∘ f =
      g ∘ fun u => u.layout.withoutDefaults := funext does
  rw [leads, List.map_map, ← same] at changed
  rwa [Holds, List.map_map]

/-- Statements that succeed where the tables are of certain layouts, and leave others there. -/
def Leads (ts : List Layout) (qs : List Statement) (us : List Layout) : Prop :=
  ∀ s : State, s.Holds ts →
    ∃ s', run qs s = (.ok (), s') ∧ s'.Holds us ∧ s'.version = s.version

theorem Leads.one {q : Statement} (h : ∀ s : State, s.Holds ts → ∃ s', s.apply q = .ok s' ∧
    s'.Holds us ∧ s'.version = s.version) : Leads ts [q] us := by
  intro s hs
  obtain ⟨s', applied, holds, version⟩ := h s hs
  have changed : changing (·.apply q) s = (.ok (), s') := by
    rw [changing, applied]
  exact ⟨s', Run.bind_of_ok changed _, holds, version⟩

theorem Leads.nil : Leads ts [] ts := fun s hs => ⟨s, rfl, hs, rfl⟩

theorem run_append (qs rs : List Statement) (s : State) :
    run (qs ++ rs) s = (run qs >>= fun _ => run rs) s := by
  induction qs generalizing s with
  | nil => rfl
  | cons q rest ih =>
    show (changing (·.apply q) >>= fun _ => run (rest ++ rs)) s =
      ((changing (·.apply q) >>= fun _ => run rest) >>= fun _ => run rs) s
    rcases changed : changing (·.apply q) s with ⟨r, s'⟩
    cases r with
    | error e => rw [Run.bind_of_error changed, Run.bind_of_error (Run.bind_of_error changed _)]
    | ok u =>
      rw [Run.bind_of_ok changed, ih]
      rcases ran : run rest s' with ⟨r, s''⟩
      have first : (changing (·.apply q) >>= fun _ => run rest) s = (r, s'') := by
        rw [Run.bind_of_ok changed, ran]
      cases r with
      | error e => rw [Run.bind_of_error ran, Run.bind_of_error first]
      | ok u => rw [Run.bind_of_ok ran, Run.bind_of_ok first]

theorem Leads.append {vs : List Layout} {qs rs : List Statement} (first : Leads ts qs us)
    (second : Leads us rs vs) : Leads ts (qs ++ rs) vs := by
  intro s hs
  obtain ⟨s₁, ran₁, holds₁, version₁⟩ := first s hs
  obtain ⟨s₂, ran₂, holds₂, version₂⟩ := second s₁ holds₁
  refine ⟨s₂, ?_, holds₂, version₂.trans version₁⟩
  rw [run_append, Run.bind_of_ok ran₁, ran₂]

/-- A table is created where there is none of its name. -/
theorem createTable_leads (apart : Apart (t :: ts)) : Leads ts [.createTable t] (t :: ts) := by
  refine .one fun s h => ?_
  refine ⟨{ s with tables := s.tables ++ [⟨t, []⟩] }, ?_, ?_, rfl⟩
  · rw [apply, h.fresh apart]
    rfl
  · rw [Holds, List.map_append]
    exact (List.perm_append_singleton _ _).trans (List.Perm.cons _ h)

/-- An index is created in a table that is there, unless there is one of its name. -/
theorem createIndex_leads {is : List Index} {i : Index}
    (apart : Apart ({ t with indexes := is ++ [i] } :: ts)) :
    Leads ({ t with indexes := is } :: ts) [.createIndex t.name i]
      ({ t with indexes := is ++ [i] } :: ts) := by
  refine .one fun s h => ?_
  have last : i ∈ is ++ [i] := List.mem_append_right _ (List.mem_singleton_self i)
  refine ⟨s.onTable t.name (addIndex i), ?_, ?_, rfl⟩
  · have there : s.has t.name = true := by
      rw [h.has, List.any_cons, sameName_self, Bool.true_or]
    have free : s.hasIndex i.name = false := by
      have own := apart.own_index
      rw [List.map_append, List.nodup_append] at own
      rw [h.hasIndex, List.any_eq_false]
      intro u hu
      rw [List.any_eq_true]
      rintro ⟨j, hj, same⟩
      rcases List.mem_cons.mp hu with rfl | hu
      · exact own.2.2 j.name (List.mem_map_of_mem hj) i.name (by simp) (eq_of_beq same)
      · exact apart.other_index last u hu j hj (eq_of_beq same)
    rw [apply, there, free]
    rfl
  · refine h.change (g := fun u =>
      if sameName u.name t.name then { u with indexes := u.indexes ++ [i] } else u) ?_ ?_
    · intro u
      have name : u.layout.withoutDefaults.name = u.layout.name := rfl
      rw [name]
      split <;> rfl
    · have name : ({ t with indexes := is } : Layout).withoutDefaults.name = t.name := rfl
      rw [List.map_cons, List.map_cons, List.map_cons, name, sameName_self, if_pos rfl]
      congr 1
      rw [List.map_map]
      refine List.map_congr_left fun u hu => ?_
      have other : sameName u.withoutDefaults.name t.name = false := apart.other_name u hu
      rw [Function.comp, other]
      rfl

/-- An index that is there is removed. -/
theorem dropIndex_leads {is : List Index} {i : Index}
    (apart : Apart ({ t with indexes := is ++ [i] } :: ts)) :
    Leads ({ t with indexes := is ++ [i] } :: ts) [.dropIndex i.name]
      ({ t with indexes := is } :: ts) := by
  refine .one fun s h => ?_
  have last : i ∈ is ++ [i] := List.mem_append_right _ (List.mem_singleton_self i)
  have kept {l : List Index} (others : ∀ j ∈ l, j.name ≠ i.name) :
      l.filter (·.name != i.name) = l :=
    List.filter_eq_self.mpr fun j hj => bne_iff_ne.mpr (others j hj)
  refine ⟨{ s with tables := s.tables.map (removeIndex i.name) }, ?_, ?_, rfl⟩
  · have there : s.hasIndex i.name = true := by
      rw [h.hasIndex, List.any_cons]
      simp
    rw [apply, there]
    rfl
  · refine h.change (g := fun u => { u with indexes := u.indexes.filter (·.name != i.name) })
      (fun u => rfl) ?_
    have own := apart.own_index
    rw [List.map_append, List.nodup_append] at own
    rw [List.map_cons, List.map_cons, List.map_cons]
    congr 1
    · have rest : (is ++ [i]).filter (·.name != i.name) = is := by
        rw [List.filter_append, kept fun j hj same =>
          own.2.2 j.name (List.mem_map_of_mem hj) i.name (by simp) same]
        simp
      simp only [Layout.withoutDefaults, rest]
    · rw [List.map_map]
      refine List.map_congr_left fun u hu => ?_
      simp only [Function.comp, Layout.withoutDefaults, kept (apart.other_index last u hu)]

/-- A table that is there is removed. -/
theorem dropTable_leads (apart : Apart (t :: ts)) : Leads (t :: ts) [.dropTable t.name] ts := by
  refine .one fun s h => ?_
  refine ⟨{ s with tables := s.tables.filter fun u => !sameName u.layout.name t.name }, ?_, ?_,
    rfl⟩
  · have there : s.has t.name = true := by
      rw [h.has, List.any_cons, sameName_self, Bool.true_or]
    rw [apply, there]
    rfl
  · have others : (ts.map Layout.withoutDefaults).filter (fun u => !sameName u.name t.name) =
        ts.map Layout.withoutDefaults := by
      refine List.filter_eq_self.mpr fun u hu => ?_
      obtain ⟨v, hv, rfl⟩ := List.mem_map.mp hu
      rw [Bool.not_eq_true']
      exact apart.other_name v hv
    have name : t.withoutDefaults.name = t.name := rfl
    have left := h.filter fun u => !sameName u.name t.name
    rw [List.map_cons, List.filter_cons, name, sameName_self, others, List.filter_map] at left
    exact left

/-! ## The statements of tables -/

theorem createIndexes_lead {before rest : List Index}
    (apart : Apart ({ t with indexes := before ++ rest } :: ts)) :
    Leads ({ t with indexes := before } :: ts) (rest.map (.createIndex t.name))
      ({ t with indexes := before ++ rest } :: ts) := by
  induction rest generalizing before with
  | nil =>
    rw [List.append_nil]
    exact .nil
  | cons i rest ih =>
    rw [List.append_cons] at apart ⊢
    have one := createIndex_leads (apart.fewer (List.sublist_append_left (before ++ [i]) rest))
    exact one.append (ih apart)

/-- A table is created with its indexes. -/
theorem creation_leads (apart : Apart (t :: ts)) : Leads ts t.creation (t :: ts) := by
  have bare := createTable_leads (apart.fewer (List.nil_sublist t.indexes))
  have indexes : Leads ({ t with indexes := [] } :: ts) (t.indexes.map (.createIndex t.name))
      (t :: ts) := createIndexes_lead apart
  exact bare.append indexes

theorem dropIndexes_lead {before rest : List Index}
    (apart : Apart ({ t with indexes := before ++ rest.reverse } :: ts)) :
    Leads ({ t with indexes := before ++ rest.reverse } :: ts) (rest.map fun i => .dropIndex i.name)
      ({ t with indexes := before } :: ts) := by
  induction rest with
  | nil =>
    rw [List.reverse_nil, List.append_nil]
    exact .nil
  | cons i rest ih =>
    rw [List.reverse_cons, ← List.append_assoc] at apart ⊢
    have one := dropIndex_leads apart
    exact one.append (ih (apart.fewer (List.sublist_append_left _ [i])))

/-- A table is removed with its indexes. -/
theorem removal_leads (apart : Apart (t :: ts)) : Leads (t :: ts) t.removal ts := by
  have indexes : Leads (t :: ts) (t.indexes.reverse.map fun i => .dropIndex i.name)
      ({ t with indexes := [] } :: ts) := by
    have dropped := @dropIndexes_lead t ts [] t.indexes.reverse
    rw [List.nil_append, List.reverse_reverse] at dropped
    exact dropped apart
  exact indexes.append (dropTable_leads (apart.fewer (List.nil_sublist t.indexes)))

/-- Tables are created one after the other. -/
theorem creations_lead (apart : Apart (us.reverse ++ ts)) :
    Leads ts (us.flatMap Layout.creation) (us.reverse ++ ts) := by
  induction us generalizing ts with
  | nil => exact .nil
  | cons u rest ih =>
    rw [List.reverse_cons, List.append_assoc] at apart ⊢
    have here : Apart (u :: ts) := apart.sublist (List.sublist_append_right ..)
    exact (creation_leads here).append (ih apart)

/-- Tables are removed one after the other. -/
theorem removals_lead (apart : Apart (us ++ ts)) :
    Leads (us ++ ts) (us.flatMap Layout.removal) ts := by
  induction us with
  | nil => exact .nil
  | cons u rest ih => exact (removal_leads apart).append (ih apart.tail)

/-- A table that is there cannot be created, and nothing is created after it. -/
theorem run_creation_there (h : s.has t.name = true) (rest : List Statement) :
    run (t.creation ++ rest) s = (.error .database, s) := by
  have refused : changing (·.apply (.createTable { t with indexes := [] })) s =
      (.error .database, s) := by
    rw [changing, apply, h]
    rfl
  exact Run.bind_of_error refused _

/-! ## Missing tables -/

/-- Creating missing tables adds those whose names are free, and leaves the others as they are. -/
theorem foldl_createMissing (distinct : (us.map fun u => nameKey u.name).Nodup) (s : State) :
    us.foldl createMissing s =
      { s with
        tables := s.tables ++
          (us.filter fun u => !s.has u.name).map fun u => ⟨u.withoutDefaults, []⟩ } := by
  induction us generalizing s with
  | nil => simp
  | cons u rest ih =>
    rw [List.map_cons, List.nodup_cons] at distinct
    rw [List.foldl_cons, ih distinct.2, createMissing]
    cases there : s.has u.name with
    | true => simp [there]
    | false =>
      have others : (rest.filter fun v => !({ s with
          tables := s.tables ++ [⟨u.withoutDefaults, []⟩] } : State).has v.name) =
            rest.filter fun v => !s.has v.name := by
        refine List.filter_congr fun v hv => ?_
        have other : sameName u.withoutDefaults.name v.name = false := by
          rw [sameName_eq, beq_eq_false_iff_ne]
          intro same
          exact distinct.1 (List.mem_map.mpr ⟨v, hv, same.symm⟩)
        simp [has, other]
      simp [there, others]

end Holds
end State

end TaskRules.Migration
