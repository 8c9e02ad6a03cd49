import TaskRules.Schema.Check

/-!
What a check that succeeded says. A form succeeds when each of its fields does, and a field is read
off a value that is there or has its default.

Proved:
- `and_ok`, `also_ok`, `under_ok`, `map_ok`: the parts of a check that succeeded.
- `required_ok`, `optional_ok`: where the value of a field comes from.
- `filledText_ok`, `oneOf_ok`, `object_ok`, `wholeFrom_ok`: what is known of a value that passed.
- `filledText_whole`, `oneOf_whole`: a text that passed has no lone half.
-/

namespace TaskRules.Schema

/-! ## Checks -/

theorem map_ok {x : Checked α} {f : α → β} {b : β} (h : x.map f = .ok b) :
    ∃ a, x = .ok a ∧ f a = b := by
  cases x with
  | ok a => exact ⟨a, rfl, Except.ok.inj h⟩
  | error problems => cases h

theorem and_ok {f : Checked (α → β)} {x : Checked α} {b : β} (h : f.and x = .ok b) :
    ∃ g a, f = .ok g ∧ x = .ok a ∧ g a = b := by
  cases f <;> cases x <;> cases h
  exact ⟨_, _, rfl, rfl, rfl⟩

theorem also_ok {x : Checked α} {f : α → Checked β} {b : β} (h : x.also f = .ok b) :
    ∃ a, x = .ok a ∧ f a = .ok b := by
  cases x with
  | ok a => exact ⟨a, rfl, h⟩
  | error problems => cases h

theorem under_ok {x : Checked α} {step : Step} {a : α} (h : x.under step = .ok a) : x = .ok a := by
  cases x with
  | ok b => exact h
  | error problems => cases h

/-! ## Fields -/

theorem mem_of_get {fields : Json.Fields} {name : String} {v : Json}
    (h : Json.Fields.get? fields name = some v) : (name, v) ∈ fields := by
  induction fields with
  | nil => cases h
  | cons f rest ih =>
    obtain ⟨k, w⟩ := f
    rw [Json.Fields.get?] at h
    split at h
    · rename_i hk
      cases h
      exact hk ▸ List.mem_cons_self ..
    · exact List.mem_cons_of_mem _ (ih h)

theorem mem_of_find {fields : Json.Fields} {names : List String} {name : String} {v : Json}
    (h : find? fields names = some (name, v)) : (name, v) ∈ fields := by
  induction names with
  | nil => cases h
  | cons first rest ih =>
    rw [find?] at h
    split at h
    · rename_i w hw
      cases h
      exact mem_of_get hw
    · exact ih h

/-- A field that has to be there is read off one of the fields. -/
theorem required_ok {fields : Json.Fields} {names : List String} {check : Json → Checked α} {a : α}
    (h : required fields names check = .ok a) : ∃ f ∈ fields, check f.2 = .ok a := by
  unfold required at h
  split at h
  · rename_i name v hfind
    exact ⟨(name, v), mem_of_find hfind, under_ok h⟩
  · cases h

/-- A field with a default has it, or is read off one of the fields. -/
theorem optional_ok {fields : Json.Fields} {names : List String} {default : α}
    {check : Json → Checked α} {a : α} (h : optional fields names default check = .ok a) :
    a = default ∨ ∃ f ∈ fields, check f.2 = .ok a := by
  unfold optional at h
  split at h
  · rename_i name v hfind
    exact .inr ⟨(name, v), mem_of_find hfind, under_ok h⟩
  · exact .inl (Except.ok.inj h).symm

/-! ## Values -/

theorem unicode_whole {s t : String} (h : unicode s = .ok t) : Text.isWhole t.toList = true := by
  unfold unicode at h
  split at h
  · cases h
    assumption
  · cases h

theorem filledText_ok {v : Json} {s : String} (h : filledText v = .ok s) : s ≠ "" := by
  obtain ⟨t, -, h⟩ := also_ok h
  split at h
  · cases h
  · cases h
    assumption

theorem filledText_whole {v : Json} {s : String} (h : filledText v = .ok s) :
    Text.isWhole s.toList = true := by
  obtain ⟨t, ht, hs⟩ := also_ok h
  obtain ⟨u, -, hu⟩ := also_ok ht
  split at hs
  · cases hs
  · cases hs
    exact unicode_whole hu

theorem oneOf_ok {names : List String} {v : Json} {s : String} (h : oneOf names v = .ok s) :
    s ∈ names := by
  unfold oneOf at h
  split at h
  · obtain ⟨t, -, h⟩ := also_ok h
    split at h
    · cases h
      exact List.contains_iff_mem.mp ‹_›
    · cases h
  · cases h

theorem oneOf_whole {names : List String} {v : Json} {s : String} (h : oneOf names v = .ok s) :
    Text.isWhole s.toList = true := by
  unfold oneOf at h
  split at h
  · obtain ⟨t, ht, hs⟩ := also_ok h
    split at hs
    · cases hs
      exact unicode_whole ht
    · cases hs
  · cases h

theorem object_ok {v : Json} {fields : Json.Fields} (h : object v = .ok fields) :
    v = .obj fields := by
  cases v <;> cases h
  rfl

theorem wholeFrom_ok {bound n : Int} {v : Json} (h : wholeFrom bound v = .ok n) : bound ≤ n := by
  obtain ⟨m, -, h⟩ := also_ok h
  split at h
  · cases h
  · cases h
    omega

end TaskRules.Schema
