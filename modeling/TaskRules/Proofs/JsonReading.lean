import TaskRules.Proofs.JsonText
import TaskRules.Proofs.Runs

/-!
What reading JSON text can give. The readers of values, of items and of fields call one another
with less fuel, so what they give is described together, by induction on the fuel.

Proved:
- `readNumber_readable`: a number that is read can be read again.
- `ofPairs_spec`: fields that are gathered hold each name once, and no value but those given.
- `readsReadable`, `read_readable`: so does every value that is read.
-/

namespace TaskRules.Json

/-! ## Numbers -/

theorem natOf_lt {cs : List Char} (h : AreDigits cs) : natOf cs < 10 ^ cs.length := by
  induction cs with
  | nil => decide
  | cons c rest ih =>
    have hc := h c (List.mem_cons_self ..)
    have hrest := ih fun d hd => h d (List.mem_cons_of_mem _ hd)
    have hdigit : natOf [c] ≤ 9 := by
      rcases digit_cases hc with
        rfl | rfl | rfl | rfl | rfl | rfl | rfl | rfl | rfl | rfl <;> decide
    have hsplit : natOf (c :: rest) = natOf [c] * 10 ^ rest.length + natOf rest :=
      natOf_append [c] rest
    have hmul := Nat.mul_le_mul_right (10 ^ rest.length) hdigit
    rw [hsplit, List.length_cons, pow_succ]
    omega

theorem takeWhile_areDigits (cs : List Char) : AreDigits (cs.takeWhile isAsciiDigit) :=
  fun c hc => List.all_eq_true.mp List.all_takeWhile c hc

theorem wholeOf_areDigits (body : List Char) : AreDigits (wholeOf body) := by
  unfold wholeOf
  split
  · intro c hc
    rw [List.mem_singleton.mp hc]
    decide
  · exact takeWhile_areDigits body

theorem numberAfter_readable {negative : Bool} {whole tail rest : List Char} {v : Json}
    (hw : AreDigits whole) (h : numberAfter negative whole tail = .ok (v, rest)) :
    v.Throughout IsReadable := by
  unfold numberAfter at h
  simp only at h
  split at h
  · split at h
    · cases h
    · rename_i hlength
      cases h
      have hlt := (natOf_lt hw).trans_le
        (Nat.pow_le_pow_right (by decide : 0 < 10) (Nat.not_lt.mp hlength))
      refine .int ?_
      show Int.natAbs _ < _
      split
      · rwa [Int.natAbs_neg, Int.natAbs_natCast]
      · rwa [Int.natAbs_natCast]
  · cases h
    exact .double (Double.ofDecimal_inFormat ..)

theorem readNumber_readable {cs rest : List Char} {v : Json} (h : readNumber cs = .ok (v, rest)) :
    v.Throughout IsReadable := by
  rw [readNumber_parts] at h
  simp only at h
  split at h
  · cases h
  · exact numberAfter_readable (wholeOf_areDigits _) h

/-! ## Objects -/

theorem mem_put {fields : Fields} {name : String} {v : Json} {f : String × Json}
    (h : f ∈ Fields.put fields name v) : f ∈ fields ∨ f = (name, v) := by
  induction fields with
  | nil => exact .inr (List.mem_singleton.mp h)
  | cons g rest ih =>
    obtain ⟨k, w⟩ := g
    rw [Fields.put] at h
    split at h
    · rename_i hk
      rcases List.mem_cons.mp h with rfl | h
      · exact .inr (by rw [hk])
      · exact .inl (List.mem_cons_of_mem _ h)
    · rcases List.mem_cons.mp h with rfl | h
      · exact .inl (List.mem_cons_self ..)
      · exact (ih h).imp_left (List.mem_cons_of_mem _)

theorem put_nodup {fields : Fields} (h : (Fields.names fields).Nodup) (name : String) (v : Json) :
    (Fields.names (Fields.put fields name v)).Nodup := by
  rw [put_names]
  split
  · exact h
  · rename_i hn
    exact List.nodup_append.mpr ⟨h, List.nodup_cons.mpr ⟨List.not_mem_nil, List.nodup_nil⟩, by
      rintro a ha b hb rfl
      exact hn (List.mem_singleton.mp hb ▸ ha)⟩

/-- The fields that pairs leave have a name each and are among the pairs. -/
theorem ofPairs_spec (pairs : Fields) :
    (Fields.names (Fields.ofPairs pairs)).Nodup ∧ ∀ f ∈ Fields.ofPairs pairs, f ∈ pairs := by
  have go : ∀ (rest before : Fields), (Fields.names before).Nodup →
      (Fields.names (rest.foldl (fun fields p => Fields.put fields p.1 p.2) before)).Nodup ∧
        ∀ f ∈ rest.foldl (fun fields p => Fields.put fields p.1 p.2) before,
          f ∈ before ∨ f ∈ rest := by
    intro rest
    induction rest with
    | nil => exact fun before h => ⟨h, fun f hf => .inl hf⟩
    | cons p rest ih =>
      intro before h
      obtain ⟨hn, hm⟩ := ih _ (put_nodup h p.1 p.2)
      refine ⟨hn, fun f hf => ?_⟩
      rcases hm f hf with hf | hf
      · rcases mem_put hf with hf | rfl
        · exact .inl hf
        · exact .inr (List.mem_cons_self ..)
      · exact .inr (List.mem_cons_of_mem _ hf)
  obtain ⟨hn, hm⟩ := go pairs [] List.nodup_nil
  exact ⟨hn, fun f hf => (hm f hf).resolve_left List.not_mem_nil⟩

/-! ## Values -/

/-- What one reader of values, items and fields gives with some fuel is readable. -/
structure ReadsReadable (fuel : Nat) : Prop where
  value : ∀ {cs rest v}, readValue fuel cs = .ok (v, rest) → v.Throughout IsReadable
  items : ∀ {cs rest acc v}, (∀ w ∈ acc, w.Throughout IsReadable) →
    readItems fuel cs acc = .ok (v, rest) → v.Throughout IsReadable
  fields : ∀ {cs rest v} {acc : Fields}, (∀ f ∈ acc, f.2.Throughout IsReadable) →
    readFields fuel cs acc = .ok (v, rest) → v.Throughout IsReadable

section Steps
variable {fuel : Nat} (ih : ReadsReadable fuel) {cs rest : List Char} {v : Json}
include ih

theorem readValue_step (h : readValue (fuel + 1) cs = .ok (v, rest)) : v.Throughout IsReadable := by
  unfold readValue at h
  split at h
  · obtain ⟨⟨s, more⟩, -, h⟩ := ok_of_bind h
    cases h
    exact .str trivial
  · split at h
    · cases h
      exact .obj List.nodup_nil fun f hf => by cases hf
    · exact ih.fields (fun f hf => by cases hf) h
  · split at h
    · cases h
      exact .arr trivial fun v hv => by cases hv
    · exact ih.items (fun f hf => by cases hf) h
  · cases h
    exact .null trivial
  · cases h
    exact .bool trivial
  · cases h
    exact .bool trivial
  · cases h
    exact .double trivial
  · cases h
    exact .double trivial
  · cases h
    exact .double trivial
  · exact readNumber_readable h

theorem readItems_step {acc : List Json} (ha : ∀ w ∈ acc, w.Throughout IsReadable)
    (h : readItems (fuel + 1) cs acc = .ok (v, rest)) : v.Throughout IsReadable := by
  unfold readItems at h
  obtain ⟨⟨w, more⟩, hw, h⟩ := ok_of_bind h
  have hacc : ∀ u ∈ w :: acc, u.Throughout IsReadable := by
    intro u hu
    rcases List.mem_cons.mp hu with rfl | hu
    · exact ih.value hw
    · exact ha u hu
  simp only at h
  split at h
  · cases h
    exact .arr trivial fun u hu => hacc u (List.mem_reverse.mp hu)
  · exact ih.items hacc h
  · cases h

theorem readFields_step {acc : Fields} (ha : ∀ f ∈ acc, f.2.Throughout IsReadable)
    (h : readFields (fuel + 1) cs acc = .ok (v, rest)) : v.Throughout IsReadable := by
  unfold readFields at h
  split at h
  · obtain ⟨⟨name, more⟩, -, h⟩ := ok_of_bind h
    simp only at h
    split at h
    · obtain ⟨⟨w, more⟩, hw, h⟩ := ok_of_bind h
      have hacc : ∀ f ∈ (name, w) :: acc, f.2.Throughout IsReadable := by
        intro f hf
        rcases List.mem_cons.mp hf with rfl | hf
        · exact ih.value hw
        · exact ha f hf
      simp only at h
      split at h
      · cases h
        obtain ⟨hn, hm⟩ := ofPairs_spec ((name, w) :: acc).reverse
        exact .obj hn fun f hf => hacc f (List.mem_reverse.mp (hm f hf))
      · exact ih.fields hacc h
      · cases h
    · cases h
  · cases h

end Steps

theorem readsReadable (fuel : Nat) : ReadsReadable fuel := by
  induction fuel with
  | zero =>
    refine ⟨?_, ?_, ?_⟩
    · intro cs rest v h
      cases h
    · intro cs rest acc v _ h
      cases h
    · intro cs rest v acc _ h
      cases h
  | succ fuel ih => exact ⟨readValue_step ih, readItems_step ih, readFields_step ih⟩

/-- A value that was read from a text can be read. -/
theorem read_readable {text : String} {v : Json} (h : Json.read text = .ok v) :
    v.Throughout IsReadable := by
  unfold Json.read at h
  simp only at h
  split at h
  · cases h
  · obtain ⟨⟨w, rest⟩, hw, h⟩ := ok_of_bind h
    simp only at h
    split at h
    · cases h
      exact (readsReadable _).value hw
    · cases h

end TaskRules.Json
