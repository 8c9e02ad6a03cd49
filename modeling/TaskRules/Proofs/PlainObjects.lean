import TaskRules.Proofs.JobMessages

/-!
Objects that are shown to clients. An object whose texts and names have no lone halves has a form in
plain JSON, and that form has none either, so an answer that is built from it can be written.

Proved:
- `isWhole_readableName`: whatever a name holds, its readable form has no lone half.
- `isWhole_iso`: nor has the text of a moment.
- `isUnicode_arr`, `isUnicode_obj`: a value has no lone halves when nothing inside it has any.
- `brokenName_none_of_isUnicode`, `isUnicode_finite`: such a value has no broken name, and stays
  such a value with null in place of numbers that are not finite.
- `plain_isUnicode`: such an object is shown, without lone halves.
-/

namespace TaskRules

namespace Text

/-! ## Names -/

theorem pairPoint_lt {a b : Char} {n : Nat} (h : pairPoint? a b = some n) : n < 0x110000 := by
  unfold pairPoint? at h
  split at h
  · rename_i pair
    obtain rfl := Option.some.inj h
    have hlead : firstLead = 1105922 := rfl
    have htrail : firstTrail = 1103872 := rfl
    have hcount : trailCount = 2050 := rfl
    have lead : a.toNat - firstLead ≤ 1 := by
      have : leadCount = 2 := rfl
      omega
    have place := Nat.mul_le_mul_right trailCount lead
    unfold pointAt
    split <;> omega
  · cases h

theorem points_lt {cs : List Char} : ∀ n ∈ points cs, n < 0x110000 := by
  induction cs using points.induct with
  | case1 => simp [points]
  | case2 c =>
    intro n hn
    rw [points, List.mem_singleton] at hn
    rw [hn]
    exact toNat_lt c
  | case3 a b rest n hpair ih =>
    have small : n < 0x110000 := pairPoint_lt hpair
    rw [points, hpair]
    exact List.forall_mem_cons.mpr ⟨small, ih⟩
  | case4 a b rest hpair ih =>
    rw [points, hpair]
    exact List.forall_mem_cons.mpr ⟨toNat_lt a, ih⟩

theorem OfCharacters.append {cs ds : List Char} (h : OfCharacters cs) (h' : OfCharacters ds) :
    OfCharacters (cs ++ ds) := by
  obtain ⟨chars, rfl⟩ := h
  obtain ⟨others, rfl⟩ := h'
  exact ⟨chars ++ others, by simp [ofChars, ofPoints]⟩

theorem OfCharacters.flatMap {f : α → List Char} {l : List α} (h : ∀ a ∈ l, OfCharacters (f a)) :
    OfCharacters (l.flatMap f) := by
  induction l with
  | nil => exact ⟨[], rfl⟩
  | cons a rest ih =>
    rw [List.flatMap_cons]
    exact (h a (List.mem_cons_self ..)).append (ih fun b hb => h b (List.mem_cons_of_mem _ hb))

/-! ## Times -/

theorem isSmall_append (cs ds : List Char) : isSmall (cs ++ ds) = (isSmall cs && isSmall ds) :=
  List.all_append

theorem isSmall_cons (c : Char) (cs : List Char) :
    isSmall (c :: cs) = (decide (c.toNat < firstTrail) && isSmall cs) := rfl

theorem padded_small (width n : Nat) : isSmall (padded width n) = true := by
  simp only [isSmall, List.all_eq_true, decide_eq_true_eq]
  intro c hc
  rcases List.mem_append.mp hc with hc | hc
  · rw [(List.mem_replicate.mp hc).2]
    decide
  · exact digits_small n c hc

/-- The text of a moment is made of digits and signs. -/
theorem isWhole_iso (m : Moment) : isWhole m.iso.toList = true := by
  refine isWhole_ofCharacters (ofCharacters_small ?_)
  rw [Moment.iso, String.toList_ofList, Moment.charsWith, Date.chars]
  by_cases whole : m.micro = 0
  · simp only [whole, if_true, isSmall_append, isSmall_cons, padded_small, Bool.and_true]
    decide
  · simp only [whole, if_false, isSmall_append, isSmall_cons, padded_small, Bool.and_true]
    decide

end Text

namespace Json

theorem isWhole_readableName (name : String) : Text.isWhole (readableName name).toList = true := by
  refine Text.isWhole_ofCharacters ?_
  rw [readableName, String.toList_ofList]
  refine Text.OfCharacters.flatMap fun n hn => ?_
  cases half : Text.isHalf n with
  | true =>
    rw [if_pos rfl]
    exact Text.ofCharacters_small (by decide)
  | false =>
    have small := Text.points_lt n hn
    have scalar : n < 0xD800 ∨ 0xE000 ≤ n ∧ n < 0x110000 := by
      simp [Text.isHalf] at half
      omega
    rw [if_neg Bool.false_ne_true]
    exact ⟨[Char.ofNat n], by simp [Text.ofChars, Text.ofPoints, Text.toNat_ofNat scalar]⟩

/-! ## Values -/

theorem isUnicode_int (n : Int) : (int n).isUnicode = true := rfl

theorem isUnicode_str (s : String) : (str s).isUnicode = Text.isWhole s.toList := rfl

theorem isUnicode_arr (items : List Json) : (arr items).isUnicode = items.all isUnicode := by
  induction items with
  | nil => rfl
  | cons v rest ih => rw [List.all_cons, ← ih]; rfl

theorem isUnicode_obj (fields : Fields) :
    (obj fields).isUnicode = fields.all fun f => Text.isWhole f.1.toList && f.2.isUnicode := by
  induction fields with
  | nil => rfl
  | cons f rest ih => rw [List.all_cons, ← ih]; rfl

mutual
/-- Every value is made of values. -/
theorem everywhere : ∀ v : Json, v.Throughout fun _ => True
  | .null => .null trivial
  | .bool _ => .bool trivial
  | .int _ => .int trivial
  | .double _ => .double trivial
  | .str _ => .str trivial
  | .arr items => .arr trivial (everywhere_items items)
  | .obj fields => .obj trivial (everywhere_fields fields)

theorem everywhere_items : ∀ items : List Json, ∀ v ∈ items, v.Throughout fun _ => True
  | [] => by simp
  | v :: rest => List.forall_mem_cons.mpr ⟨everywhere v, everywhere_items rest⟩

theorem everywhere_fields : ∀ fields : List (String × Json), ∀ f ∈ fields,
    f.2.Throughout fun _ => True
  | [] => by simp
  | (_, v) :: rest => List.forall_mem_cons.mpr ⟨everywhere v, everywhere_fields rest⟩
end

/-- A value without lone halves has no broken names. -/
theorem brokenName_none_of_isUnicode {v : Json} (h : v.isUnicode = true) :
    brokenName? v = none := by
  induction everywhere v with
  | null => rfl
  | bool => rfl
  | int => rfl
  | double => rfl
  | str => rfl
  | arr _ _ ih =>
    rw [isUnicode_arr, List.all_eq_true] at h
    exact brokenNameIn_none fun v hv => ih v hv (h v hv)
  | obj _ _ ih =>
    simp only [isUnicode_obj, List.all_eq_true, Bool.and_eq_true] at h
    exact brokenNameUnder_none fun f hf => ⟨(h f hf).1, ih f hf (h f hf).2⟩

/-- A value without lone halves has none either with null in place of some numbers. -/
theorem isUnicode_finite {v : Json} (h : v.isUnicode = true) : v.finite.isUnicode = true := by
  induction everywhere v with
  | null => rfl
  | bool => rfl
  | int => rfl
  | @double x =>
    show (if x.isFinite then Json.double x else .null).isUnicode = true
    split <;> rfl
  | str => exact h
  | arr _ _ ih =>
    rw [isUnicode_arr, List.all_eq_true] at h
    rw [finite, finiteItems_eq, isUnicode_arr, List.all_map, List.all_eq_true]
    exact fun v hv => ih v hv (h v hv)
  | obj _ _ ih =>
    simp only [isUnicode_obj, List.all_eq_true, Bool.and_eq_true] at h
    rw [finite, finiteFields_eq, isUnicode_obj, List.all_map, List.all_eq_true]
    intro f hf
    exact Bool.and_eq_true_iff.mpr ⟨(h f hf).1, ih f hf (h f hf).2⟩

/-- An object without lone halves is shown, without lone halves. -/
theorem plain_isUnicode {fields : Fields} (h : (obj fields).isUnicode = true) :
    ∃ shown, plain fields = .ok shown ∧ shown.isUnicode = true := by
  simp only [isUnicode_obj, List.all_eq_true, Bool.and_eq_true] at h
  have unbroken : brokenNameIn? (fields.map (·.2)) = none := by
    refine brokenNameIn_none fun v hv => ?_
    obtain ⟨f, hf, rfl⟩ := List.mem_map.mp hv
    exact brokenName_none_of_isUnicode (h f hf).2
  refine ⟨_, by rw [plain, unbroken], ?_⟩
  rw [isUnicode_obj, List.all_eq_true]
  intro f hf
  obtain ⟨g, hg, rfl⟩ := List.mem_map.mp ((ofPairs_spec _).2 f hf)
  exact Bool.and_eq_true_iff.mpr ⟨isWhole_readableName g.1, isUnicode_finite (h g hg).2⟩

/-- So is an object that may be absent. -/
theorem plain?_isUnicode {fields : Option Fields}
    (h : (ofOption .obj fields).isUnicode = true) :
    ∃ shown, plain? fields = .ok shown ∧ shown.isUnicode = true := by
  cases fields with
  | none => exact ⟨.null, rfl, rfl⟩
  | some fields => exact plain_isUnicode h

end Json
end TaskRules
