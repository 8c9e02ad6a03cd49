import TaskRules.Text.Case

/-!
Words in texts. A text spells a word when it is the word in any case of its letters, with blanks
around it. Full lower case takes characters of all scripts, so a text could become an ASCII word
without being made of ASCII letters: only U+0130 and U+212A do that, and only for `i` and `k`.

Proved:
- `trim_around`: trimming takes off exactly the blanks around a text that neither begins nor ends
  with one.
- `lower_eq_iff`: for a word without `i` and `k`, the texts whose lower case it is are the word
  itself in any case.
- `lower_trim_eq_iff`: trimming and lower case find exactly the texts that spell the word.
-/

namespace TaskRules.Text

/-! ## Trimming -/

theorem trimLeft_append {before rest : List Char} (h : ∀ c ∈ before, isBlank c = true) :
    trimLeft (before ++ rest) = trimLeft rest :=
  List.dropWhile_append_of_pos h

theorem trimRight_append {rest after : List Char} (h : ∀ c ∈ after, isBlank c = true) :
    trimRight (rest ++ after) = trimRight rest := by
  have h' : ∀ c ∈ after.reverse, isBlank c = true := fun c hc => h c (List.mem_reverse.mp hc)
  simp only [trimRight, List.reverse_append]
  rw [List.dropWhile_append_of_pos h']

theorem dropWhile_of_none {p : Char → Bool} {cs : List Char} (h : ∀ c ∈ cs, p c = false) :
    cs.dropWhile p = cs := by
  cases cs with
  | nil => rfl
  | cons c rest => rw [List.dropWhile_cons_of_neg]; simp [h c (List.mem_cons_self ..)]

/-- Only the blanks around a text without blanks are taken off. -/
theorem trim_around {before middle after : List Char} (hb : ∀ c ∈ before, isBlank c = true)
    (hm : ∀ c ∈ middle, isBlank c = false) (ha : ∀ c ∈ after, isBlank c = true) :
    trim (before ++ middle ++ after) = middle := by
  have hm' : ∀ c ∈ middle.reverse, isBlank c = false := fun c hc => hm c (List.mem_reverse.mp hc)
  rw [trim, List.append_assoc, trimLeft_append hb]
  cases middle with
  | nil =>
    have : trimLeft after = [] := by
      have h := @trimLeft_append after [] ha
      rwa [List.append_nil] at h
    simp [this, trimRight]
  | cons c rest =>
    have hc : isBlank c = false := hm c (List.mem_cons_self ..)
    rw [trimLeft, List.cons_append, List.dropWhile_cons_of_neg (by simp [hc]), ← List.cons_append,
      trimRight_append ha, trimRight, dropWhile_of_none hm', List.reverse_reverse]

/-- A text is what trimming leaves of it, between blanks. -/
theorem exists_around_trim (cs : List Char) :
    ∃ before after, cs = before ++ trim cs ++ after ∧ (∀ c ∈ before, isBlank c = true) ∧
      ∀ c ∈ after, isBlank c = true := by
  refine ⟨cs.takeWhile isBlank, ((trimLeft cs).reverse.takeWhile isBlank).reverse, ?_, ?_, ?_⟩
  · have hr : trimLeft cs = trim cs ++ ((trimLeft cs).reverse.takeWhile isBlank).reverse := by
      rw [trim, trimRight, ← List.reverse_append, List.takeWhile_append_dropWhile,
        List.reverse_reverse]
    rw [List.append_assoc, ← hr, trimLeft, List.takeWhile_append_dropWhile]
  · intro c hc
    exact List.all_eq_true.mp List.all_takeWhile c hc
  · intro c hc
    exact List.all_eq_true.mp List.all_takeWhile c (List.mem_reverse.mp hc)

/-! ## Lower case -/

/-- Where a run of the table leads: into characters beyond ASCII that are no halves, the Kelvin sign
apart. -/
def staysForeign (r : Nat × Nat × Nat × Int) : Bool :=
  r.1 == 0x212A && r.2.1 == 0x212A && r.2.2.2 == -8383 ||
    (decide (128 ≤ r.1 + r.2.2.2) && (decide (r.2.1 + r.2.2.2 < 0xD800) ||
      decide (0xE000 ≤ r.1 + r.2.2.2) && decide (r.2.1 + r.2.2.2 < 0x110000)))

theorem lowerRuns_stayForeign : lowerRuns.all staysForeign = true := by decide +kernel

theorem toNat_ofNat {n : Nat} (h : n < 0xD800 ∨ 0xE000 ≤ n ∧ n < 0x110000) :
    (Char.ofNat n).toNat = n := by
  have hv : n.isValidChar := by simp only [Nat.isValidChar]; omega
  rw [Char.ofNat, dif_pos hv]
  rfl

/-- Lower case leads from beyond ASCII into ASCII only at `i` and `k`. -/
theorem lowerChar_foreign {c : Char} (h : 128 ≤ c.toNat) :
    ∃ x rest, lowerChar c = x :: rest ∧ (128 ≤ x.toNat ∨ x = 'i' ∨ x = 'k') := by
  unfold lowerChar
  rw [if_neg (by omega)]
  split
  · exact ⟨_, _, rfl, .inr (.inl rfl)⟩
  split
  · rename_i r hr
    refine ⟨_, _, rfl, ?_⟩
    have hin := List.find?_some hr
    have hst := List.all_eq_true.mp lowerRuns_stayForeign r (List.mem_of_find?_eq_some hr)
    simp only [Bool.and_eq_true, decide_eq_true_eq] at hin
    simp only [staysForeign, Bool.or_eq_true, Bool.and_eq_true, beq_iff_eq,
      decide_eq_true_eq] at hst
    rcases hst with ⟨⟨h1, h2⟩, h3⟩ | ⟨h1, h2⟩
    · have hc : c.toNat = 0x212A := by omega
      right; right
      rw [hc, h3]
      rfl
    · left
      rw [toNat_ofNat (by omega)]
      omega
  · exact ⟨c, [], rfl, .inl h⟩

theorem lowerChar_ascii {c : Char} (h : c.toNat < 128) : lowerChar c = [c.toLower] := if_pos h

theorem toLower_other {c : Char} (h : ¬(65 ≤ c.toNat ∧ c.toNat ≤ 90)) : c.toLower = c :=
  dif_neg h

theorem ne_capitalSigma {c : Char} (h : c.toNat < 128) : c ≠ capitalSigma := by
  rintro rfl
  exact absurd h (by decide)

theorem lowerAfter_ascii {cs : List Char} (h : ∀ c ∈ cs, c.toNat < 128) (before : List Char) :
    lowerAfter before cs = cs.map Char.toLower := by
  induction cs generalizing before with
  | nil => rfl
  | cons c rest ih =>
    have hc := h c (List.mem_cons_self ..)
    rw [lowerAfter, if_neg (ne_capitalSigma hc), lowerChar_ascii hc,
      ih fun d hd => h d (List.mem_cons_of_mem _ hd)]
    rfl

/-- A word that only ASCII letters lead to. -/
def IsPlainWord (word : List Char) : Prop := ∀ x ∈ word, x.toNat < 128 ∧ x ≠ 'i' ∧ x ≠ 'k'

instance (word : List Char) : Decidable (IsPlainWord word) :=
  List.decidableBAll (fun x : Char => x.toNat < 128 ∧ x ≠ 'i' ∧ x ≠ 'k') word

theorem lowerAfter_eq {word cs : List Char} (hw : IsPlainWord word) {before : List Char}
    (h : lowerAfter before cs = word) :
    (∀ c ∈ cs, c.toNat < 128) ∧ cs.map Char.toLower = word := by
  induction cs generalizing before word with
  | nil => exact ⟨fun _ hc => absurd hc List.not_mem_nil, h⟩
  | cons c rest ih =>
    -- the first letter of the word comes from the first character, which has to be ASCII
    have hascii : c.toNat < 128 := by
      by_cases hc : c.toNat < 128
      · exact hc
      exfalso
      have head : ∃ x xs, word = x :: xs ∧ (128 ≤ x.toNat ∨ x = 'i' ∨ x = 'k') := by
        rw [lowerAfter] at h
        split at h
        · refine ⟨_, _, h.symm, .inl ?_⟩
          split <;> decide
        · obtain ⟨x, xs, hx, hk⟩ := lowerChar_foreign (Nat.le_of_not_lt hc)
          rw [hx] at h
          exact ⟨x, _, h.symm, hk⟩
      obtain ⟨x, xs, rfl, hk⟩ := head
      obtain ⟨h1, h2, h3⟩ := hw x (List.mem_cons_self ..)
      rcases hk with hk | hk | hk
      · omega
      · exact h2 hk
      · exact h3 hk
    rw [lowerAfter, if_neg (ne_capitalSigma hascii), lowerChar_ascii hascii] at h
    subst h
    have hrest : IsPlainWord (lowerAfter (c :: before) rest) := fun x hx =>
      hw x (List.mem_append_right _ hx)
    obtain ⟨hr, hm⟩ := ih hrest rfl
    refine ⟨fun d hd => ?_, by rw [List.map_cons, hm]; rfl⟩
    rcases List.mem_cons.mp hd with rfl | hd
    · exact hascii
    · exact hr d hd

theorem lower_eq_iff {word : List Char} (hw : IsPlainWord word) (cs : List Char) :
    lower cs = word ↔ cs.map Char.toLower = word := by
  constructor
  · intro h
    exact (lowerAfter_eq hw h).2
  · intro h
    have hascii : ∀ c ∈ cs, c.toNat < 128 := by
      intro c hc
      by_cases hn : c.toNat < 128
      · exact hn
      have hl : c.toLower = c := toLower_other (by omega)
      have := (hw c.toLower (h ▸ List.mem_map_of_mem hc)).1
      rw [hl] at this
      exact this
    rw [lower, lowerAfter_ascii hascii, h]

/-! ## Spelling a word -/

/-- A text spells a word: the word in any case, with blanks around it. -/
def Spells (word : List Char) (s : String) : Prop :=
  ∃ before letters after, s.toList = before ++ letters ++ after ∧
    (∀ c ∈ before, isBlank c = true) ∧ (∀ c ∈ after, isBlank c = true) ∧
    letters.map Char.toLower = word

/-- A character whose lower case is no blank is none either: only ASCII letters change. -/
theorem isBlank_of_toLower {c : Char} (h : isBlank c.toLower = false) : isBlank c = false := by
  by_cases hu : 65 ≤ c.toNat ∧ c.toNat ≤ 90
  · simp only [isBlank, inRanges, blanks, List.any_cons, List.any_nil, Bool.or_false]
    simp only [Bool.or_eq_false_iff, Bool.and_eq_false_iff, decide_eq_false_iff_not]
    omega
  · rwa [toLower_other hu] at h

theorem lower_trim_eq_iff {word : List Char} (hw : IsPlainWord word)
    (hb : ∀ x ∈ word, isBlank x = false) (s : String) :
    lower (trim s.toList) = word ↔ Spells word s := by
  rw [lower_eq_iff hw]
  constructor
  · intro h
    obtain ⟨before, after, hs, h1, h2⟩ := exists_around_trim s.toList
    exact ⟨before, trim s.toList, after, hs, h1, h2, h⟩
  · rintro ⟨before, letters, after, hs, h1, h2, h⟩
    have hl : ∀ c ∈ letters, isBlank c = false := fun c hc =>
      isBlank_of_toLower (hb _ (h ▸ List.mem_map_of_mem hc))
    rw [hs, trim_around h1 hl h2, h]

end TaskRules.Text
