import TaskRules.Number.Written
import TaskRules.Store.Calls
import TaskRules.Text.Point

/-!
Texts that are made from numbers: numerals, ids and the slugs of tasks. Different numbers make
different texts, and a number added to a text leaves it without lone halves.

Proved:
- `decimal_injective`, `idOf_injective`: numbers can be told from their texts.
- `isWhole_append`, `isWhole_slug`: a text that can be written can be written with a numeral after
  it.
-/

namespace TaskRules

/-! ## Numerals -/

theorem digits_injective {m n : Nat} (h : Nat.toDigits 10 m = Nat.toDigits 10 n) : m = n := by
  have value := congrArg (Nat.ofDigitChars 10 · 0) h
  simpa using value

theorem sign_not_digit (n : Nat) (cs : List Char) : '-' :: cs ≠ Nat.toDigits 10 n := by
  intro h
  have hm : '-' ∈ Nat.toDigits 10 n := h ▸ List.mem_cons_self ..
  have hd := Nat.isDigit_of_mem_toDigits (by decide) (by decide) hm
  exact absurd hd (by decide)

theorem decimal_injective {m n : Int} (h : decimal m = decimal n) : m = n := by
  have hl := String.ofList_injective h
  by_cases hm : m < 0 <;> by_cases hn : n < 0
  · simp only [hm, hn, if_true, List.cons_append, List.nil_append, List.cons.injEq, true_and] at hl
    have := digits_injective hl
    omega
  · simp only [hm, hn, if_true, if_false, List.cons_append, List.nil_append] at hl
    exact absurd hl (sign_not_digit _ _)
  · simp only [hm, hn, if_true, if_false, List.cons_append, List.nil_append] at hl
    exact absurd hl.symm (sign_not_digit _ _)
  · simp only [hm, hn, if_false, List.nil_append] at hl
    have := digits_injective hl
    omega

theorem padded_injective {width m n : Nat} (h : padded width m = padded width n) : m = n := by
  have value := congrArg (Nat.ofDigitChars 10 · 0) h
  simpa [padded, Nat.ofDigitChars_append] using value

namespace Store

theorem idOf_injective {kind : IdKind} {m n : Nat} (h : idOf kind m = idOf kind n) : m = n := by
  have hl := congrArg String.toList h
  simp only [idOf, String.toList_append, String.toList_ofList, List.append_cancel_left_eq] at hl
  exact padded_injective hl

end Store

/-! ## Texts that can be written -/

namespace Text

theorem pairPoint_none {a b : Char} (h : b.toNat < firstTrail) : pairPoint? a b = none := by
  unfold pairPoint?
  rw [if_neg]
  omega

/-- A character that is no trail starts anew. -/
theorem points_append {c : Char} (hc : c.toNat < firstTrail) (rest : List Char) :
    ∀ cs, points (cs ++ c :: rest) = points cs ++ points (c :: rest)
  | [] => rfl
  | [a] => by
    show points (a :: c :: rest) = a.toNat :: points (c :: rest)
    rw [points, pairPoint_none hc]
  | a :: b :: cs => by
    have ih := points_append hc rest (b :: cs)
    have ih' := points_append hc rest cs
    rw [List.cons_append] at ih
    rw [List.cons_append, List.cons_append, points, points]
    cases pairPoint? a b with
    | some n => rw [ih']; rfl
    | none => rw [ih]; rfl

theorem points_small {cs : List Char} (h : ∀ c ∈ cs, c.toNat < firstTrail) :
    points cs = cs.map Char.toNat := by
  induction cs with
  | nil => rfl
  | cons a rest ih =>
    have hrest : ∀ c ∈ rest, c.toNat < firstTrail := fun c hc => h c (List.mem_cons_of_mem _ hc)
    cases rest with
    | nil => rfl
    | cons b rest =>
      rw [points, pairPoint_none (hrest b (List.mem_cons_self ..)), ih hrest]
      rfl

theorem isHalf_toNat (c : Char) : isHalf c.toNat = false := by
  unfold isHalf
  have hc := c.valid
  have : c.toNat < 0xD800 ∨ 0xDFFF < c.toNat ∧ c.toNat < 0x110000 := hc
  rcases this with h | h
  · simp; omega
  · simp; omega

/-- A text stays whole with a text of ordinary characters after it. -/
theorem isWhole_append {cs : List Char} (h : isWhole cs = true) {rest : List Char}
    (hrest : ∀ c ∈ rest, c.toNat < firstTrail) : isWhole (cs ++ rest) = true := by
  cases rest with
  | nil => rwa [List.append_nil]
  | cons c rest =>
    have hc := hrest c (List.mem_cons_self ..)
    rw [isWhole, points_append hc, List.all_append, points_small hrest, List.all_map]
    rw [isWhole] at h
    rw [h, Bool.true_and, List.all_eq_true]
    intro a _
    simp [isHalf_toNat]

theorem digits_small (n : Nat) : ∀ c ∈ Nat.toDigits 10 n, c.toNat < firstTrail := by
  intro c hc
  have hd := Nat.isDigit_of_mem_toDigits (by decide) (by decide) hc
  have hle : c.toNat ≤ 57 := by
    simp only [Char.isDigit, Bool.and_eq_true, decide_eq_true_eq] at hd
    exact hd.2
  have : firstTrail = 1103872 := rfl
  omega

theorem decimal_small (n : Int) : ∀ c ∈ (decimal n).toList, c.toNat < firstTrail := by
  intro c hc
  rw [decimal, String.toList_ofList] at hc
  rcases List.mem_append.mp hc with hc | hc
  · split at hc
    · rw [List.mem_singleton.mp hc]
      decide
    · cases hc
  · exact digits_small _ c hc

/-- A numbered text can be written when the text can. -/
theorem isWhole_slug {slug : String} (h : isWhole slug.toList = true) (n : Int) :
    isWhole (slug ++ "-" ++ decimal n).toList = true := by
  rw [String.toList_append, String.toList_append, List.append_assoc]
  refine isWhole_append h ?_
  intro c hc
  rcases List.mem_append.mp hc with hc | hc
  · rw [List.mem_singleton.mp hc]
    decide
  · exact decimal_small n c hc

end Text
end TaskRules
