import TaskRules.Number.Numeral
import TaskRules.Proofs.Words

/-!
Texts of digits. A digit in the wide sense is never a blank, a sign or an underscore, so an integer
reads a text of digits from its first to its last character: there is nothing to trim and nothing to
pass over. What can still stand in the way is a digit that is not decimal, or one digit too many.

Proved:
- `isDigit_apart`: no digit is a blank, a sign or an underscore.
- `moreDigits_decimal`, `moreDigits_stops`: decimal digits are read to the end, and other digits stop
  the reading.
- `integer_eq_ok_iff`: a text of digits is read as the number that it denotes.
- `integer_eq_error_iff`: it is a fault exactly when it is garbled, that is, when one of its digits is
  not decimal or they are too many.
-/

namespace TaskRules.Text

/-! ## Digits and other characters -/

/-- The code points of digits in the wide sense. -/
def digitRanges : List (Nat × Nat) := zeros.map (fun z => (z, z + 9)) ++ otherDigits

/-- The code points that a numeral may have beside its digits: blanks, signs and the underscore. -/
def markRanges : List (Nat × Nat) := blanks ++ [(0x2B, 0x2B), (0x2D, 0x2D), (0x5F, 0x5F)]

theorem ranges_apart :
    (digitRanges.all fun r => markRanges.all fun m => m.2 < r.1 || r.2 < m.1) = true := by
  decide +kernel

theorem decimalValue_range {c : Char} {d : Nat} (h : decimalValue? c = some d) :
    ∃ z ∈ zeros, z ≤ c.toNat ∧ c.toNat ≤ z + 9 := by
  unfold decimalValue? at h
  split at h
  · split at h
    · rename_i digit
      exact ⟨0x30, by decide, digit.1, digit.2⟩
    · cases h
  · obtain ⟨z, hz, -⟩ := Option.map_eq_some_iff.mp h
    have within := List.find?_some hz
    simp only [decide_eq_true_eq] at within
    exact ⟨z, List.mem_of_find?_eq_some hz, within⟩

theorem isDigit_range {c : Char} (h : isDigit c = true) :
    ∃ r ∈ digitRanges, r.1 ≤ c.toNat ∧ c.toNat ≤ r.2 := by
  rcases Bool.or_eq_true_iff.mp h with decimal | other
  · obtain ⟨d, hd⟩ := Option.isSome_iff_exists.mp decimal
    obtain ⟨z, hz, within⟩ := decimalValue_range hd
    exact ⟨(z, z + 9), List.mem_append_left _ (List.mem_map_of_mem hz), within⟩
  · obtain ⟨r, hr, within⟩ := List.any_eq_true.mp other
    simp only [Bool.and_eq_true, decide_eq_true_eq] at within
    exact ⟨r, List.mem_append_right _ hr, within⟩

/-- No digit is a blank, a sign or an underscore. -/
theorem isDigit_apart {c : Char} (h : isDigit c = true) : inRanges markRanges c = false := by
  obtain ⟨r, hr, low, high⟩ := isDigit_range h
  have apart := List.all_eq_true.mp (List.all_eq_true.mp ranges_apart r hr)
  rw [inRanges, List.any_eq_false]
  intro m hm
  have := apart m hm
  simp only [Bool.or_eq_true, decide_eq_true_eq] at this
  simp only [Bool.and_eq_true, decide_eq_true_eq]
  omega

theorem isBlank_of_isDigit {c : Char} (h : isDigit c = true) : isBlank c = false := by
  have apart := isDigit_apart h
  rw [inRanges, markRanges, List.any_append, Bool.or_eq_false_iff] at apart
  exact apart.1

theorem ne_of_isDigit {c mark : Char} (h : isDigit c = true)
    (marked : inRanges markRanges mark = true) : c ≠ mark := by
  rintro rfl
  rw [isDigit_apart h] at marked
  cases marked

theorem isDigit_of_decimal {c : Char} {d : Nat} (h : decimalValue? c = some d) :
    isDigit c = true := by
  rw [isDigit, h]
  rfl

theorem allDigits_iff {cs : List Char} :
    allDigits cs = true ↔ cs ≠ [] ∧ ∀ c ∈ cs, isDigit c = true := by
  cases cs <;> simp [allDigits]

end TaskRules.Text

namespace TaskRules.Numeral
open Text

/-! ## Reading a text of digits -/

theorem unpad_digits {cs : List Char} (h : ∀ c ∈ cs, isDigit c = true) : unpad cs = cs := by
  have plain : ∀ c ∈ cs, isPadding c = false := by
    intro c hc
    rw [isPadding, isBlank_of_isDigit (h c hc), Bool.false_and]
  have backwards : ∀ c ∈ cs.reverse, isPadding c = false :=
    fun c hc => plain c (List.mem_reverse.mp hc)
  rw [unpad, dropWhile_of_none plain, dropWhile_of_none backwards, List.reverse_reverse]

theorem sign_digits {cs : List Char} (h : ∀ c ∈ cs, isDigit c = true) :
    sign cs = (false, cs) := by
  unfold sign
  split
  · exact absurd rfl (ne_of_isDigit (h '-' (List.mem_cons_self ..)) (by decide))
  · exact absurd rfl (ne_of_isDigit (h '+' (List.mem_cons_self ..)) (by decide))
  · rfl

theorem digits_of_isDigit {cs : List Char} (h : ∀ c ∈ cs, isDigit c = true) :
    digits cs = moreDigits cs := by
  unfold digits
  split
  · exact absurd rfl (ne_of_isDigit (h '_' (List.mem_cons_self ..)) (by decide))
  · rfl

/-- One more digit of a text of digits. -/
theorem moreDigits_cons {c : Char} (h : isDigit c = true) (rest : List Char) :
    moreDigits (c :: rest) =
      match decimalValue? c with
      | some d => (d :: (moreDigits rest).1, (moreDigits rest).2)
      | none => ([], c :: rest) := by
  have other : c ≠ '_' := ne_of_isDigit h (by decide)
  rw [moreDigits.eq_def (c :: rest)]
  split
  · rename_i same
    cases same
  · rename_i same
    exact absurd (List.cons.inj same).1 other
  · rename_i same
    obtain ⟨rfl, rfl⟩ := List.cons.inj same
    rfl

/-- Decimal digits are read to the end. -/
theorem moreDigits_decimal {cs : List Char} {ds : List Nat}
    (h : cs.map decimalValue? = ds.map some) : moreDigits cs = (ds, []) := by
  induction cs generalizing ds with
  | nil =>
    cases ds with
    | nil => rfl
    | cons d rest => cases h
  | cons c rest ih =>
    cases ds with
    | nil => cases h
    | cons d others =>
      obtain ⟨first, later⟩ := List.cons.inj h
      rw [moreDigits_cons (isDigit_of_decimal first), first, ih later]

/-- Reading stops before a digit that is not decimal. -/
theorem moreDigits_stops {cs : List Char} (h : ∀ c ∈ cs, isDigit c = true)
    (other : ∃ c ∈ cs, decimalValue? c = none) : (moreDigits cs).2 ≠ [] := by
  induction cs with
  | nil => simp at other
  | cons c rest ih =>
    obtain ⟨first, later⟩ := List.forall_mem_cons.mp h
    rw [moreDigits_cons first]
    cases value : decimalValue? c with
    | none => exact List.cons_ne_nil c rest
    | some d =>
      refine ih later ?_
      obtain ⟨x, hx, hnone⟩ := other
      rcases List.mem_cons.mp hx with rfl | hx
      · rw [value] at hnone
        cases hnone
      · exact ⟨x, hx, hnone⟩

/-! ## Numerals -/

/-- The number that a text writes in decimal digits of any scripts, as many as a numeral may have. -/
def Denotes (cs : List Char) (n : Nat) : Prop :=
  ∃ ds : List Nat, ds ≠ [] ∧ ds.length ≤ longestNumeral ∧ cs.map decimalValue? = ds.map some ∧
    natOf ds = n

/-- Digits that make no numeral: one of them is not decimal, or they are too many. -/
def Garbled (cs : List Char) : Prop :=
  (∃ c ∈ cs, decimalValue? c = none) ∨ longestNumeral < cs.length

theorem integer_of_isDigit {cs : List Char} (h : ∀ c ∈ cs, isDigit c = true) :
    integer cs =
      if (moreDigits cs).1.length > longestNumeral && (moreDigits cs).2.head? != some '_' then
        .error (.tooManyDigits (moreDigits cs).1.length)
      else if (moreDigits cs).1.isEmpty || !(moreDigits cs).2.isEmpty then
        .error (.malformed (String.ofList cs))
      else .ok (natOf (moreDigits cs).1) := by
  simp only [integer, unpad_digits h, sign_digits h, digits_of_isDigit h]
  rfl

/-- A digit that is not decimal makes the text a fault: of too many digits before it, or of its
form. -/
theorem integer_of_other {cs : List Char} (h : ∀ c ∈ cs, isDigit c = true)
    (other : ∃ c ∈ cs, decimalValue? c = none) : ∃ fault, integer cs = .error fault := by
  have left := moreDigits_stops h other
  rw [integer_of_isDigit h]
  split
  · exact ⟨_, rfl⟩
  · rw [if_pos]
    · exact ⟨_, rfl⟩
    · simp [left]

theorem decimal_of_some {cs : List Char} (h : ∀ c ∈ cs, decimalValue? c ≠ none) :
    ∃ ds : List Nat, cs.map decimalValue? = ds.map some := by
  induction cs with
  | nil => exact ⟨[], rfl⟩
  | cons c rest ih =>
    obtain ⟨first, others⟩ := List.forall_mem_cons.mp h
    obtain ⟨d, hd⟩ := Option.ne_none_iff_exists'.mp first
    obtain ⟨ds, hds⟩ := ih others
    exact ⟨d :: ds, by rw [List.map_cons, List.map_cons, hd, hds]⟩

/-- A text of digits is read as the number it denotes, or it is garbled and a fault. -/
theorem integer_cases {cs : List Char} (h : allDigits cs = true) :
    (¬Garbled cs ∧ ∃ n, Denotes cs n ∧ integer cs = .ok n) ∨
      Garbled cs ∧ ∃ fault, integer cs = .error fault := by
  obtain ⟨filled, digit⟩ := allDigits_iff.mp h
  by_cases other : ∃ c ∈ cs, decimalValue? c = none
  · exact .inr ⟨.inl other, integer_of_other digit other⟩
  obtain ⟨ds, hds⟩ := decimal_of_some fun c hc hnone => other ⟨c, hc, hnone⟩
  have count : ds.length = cs.length := by simpa using (congrArg List.length hds).symm
  have nonempty : ds ≠ [] := by
    rintro rfl
    exact filled (List.eq_nil_of_length_eq_zero count.symm)
  have read := integer_of_isDigit digit
  rw [moreDigits_decimal hds] at read
  by_cases many : longestNumeral < ds.length
  · refine .inr ⟨.inr (count ▸ many), .tooManyDigits ds.length, ?_⟩
    rw [read, if_pos (by simp [many])]
  · refine .inl ⟨?_, natOf ds, ⟨ds, nonempty, Nat.le_of_not_lt many, hds, rfl⟩, ?_⟩
    · rintro (found | long)
      · exact other found
      · exact many (count ▸ long)
    · rw [read, if_neg (by simp [many]), if_neg (by simp [nonempty])]

theorem denotes_isDigit {cs : List Char} {n : Nat} (h : Denotes cs n) :
    allDigits cs = true ∧ ¬Garbled cs := by
  obtain ⟨ds, nonempty, few, hds, -⟩ := h
  have count : cs.length = ds.length := by simpa using congrArg List.length hds
  have decimal : ∀ c ∈ cs, ∃ d, decimalValue? c = some d := by
    intro c hc
    have value : decimalValue? c ∈ ds.map some := hds ▸ List.mem_map_of_mem hc
    obtain ⟨d, -, hd⟩ := List.mem_map.mp value
    exact ⟨d, hd.symm⟩
  constructor
  · refine allDigits_iff.mpr ⟨?_, fun c hc => ?_⟩
    · rintro rfl
      exact nonempty (List.eq_nil_of_length_eq_zero count.symm)
    · obtain ⟨d, hd⟩ := decimal c hc
      exact isDigit_of_decimal hd
  · rintro (⟨c, hc, none'⟩ | many)
    · obtain ⟨d, hd⟩ := decimal c hc
      rw [none'] at hd
      cases hd
    · omega

/-- A text denotes one number at most. -/
theorem Denotes.unique {cs : List Char} {m n : Nat} (hm : Denotes cs m) (hn : Denotes cs n) :
    m = n := by
  obtain ⟨ds, -, -, hds, rfl⟩ := hm
  obtain ⟨es, -, -, hes, rfl⟩ := hn
  have same : ds = es :=
    (List.map_inj_right fun _ _ h => Option.some.inj h).mp (hds.symm.trans hes)
  rw [same]

/-- What a text of digits is read as. -/
theorem integer_eq_ok_iff {cs : List Char} (h : allDigits cs = true) {z : Int} :
    integer cs = .ok z ↔ ∃ n : Nat, Denotes cs n ∧ z = n := by
  rcases integer_cases h with ⟨-, m, hm, read⟩ | ⟨garbled, fault, read⟩
  · rw [read]
    constructor
    · intro same
      exact ⟨m, hm, (Except.ok.inj same).symm⟩
    · rintro ⟨n, hn, rfl⟩
      rw [hm.unique hn]
  · rw [read]
    constructor
    · intro same
      cases same
    · rintro ⟨n, hn, -⟩
      exact absurd garbled (denotes_isDigit hn).2

/-- When a text of digits is a fault. -/
theorem integer_eq_error_iff {cs : List Char} (h : allDigits cs = true) :
    (∃ fault, integer cs = .error fault) ↔ Garbled cs := by
  rcases integer_cases h with ⟨fine, m, -, read⟩ | ⟨garbled, fault, read⟩
  · rw [read]
    constructor
    · rintro ⟨fault, same⟩
      cases same
    · exact fun garbled => absurd garbled fine
  · exact ⟨fun _ => garbled, fun _ => ⟨fault, read⟩⟩

end TaskRules.Numeral
