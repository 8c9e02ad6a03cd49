import TaskRules.Proofs.ConditionTruth
import TaskRules.Proofs.Rounding

/-!
Whole numbers in conditions. Equality compares them as they are, order as the doubles that they are
rounded to. Rounding never turns two numbers around, so an order that is found is one of the numbers;
but it can make two of them one double, and then neither is found to be the greater while each is at
least the other. Up to 2⁵³ there is a double for every whole number.

Proved:
- `nearest_mono`, `roundSteps_mono`, `rank_ofInt_mono`: rounding keeps the order.
- `rank_ofInt_small`, `ofInt_finite`: up to 2⁵³ nothing is rounded, and no double is infinite.
- `order_of_whole_numbers`: the comparisons of two whole numbers, decided by their order and by whether
  their doubles tell them apart.
- `neighbours_are_not_told_apart`: two that are not.
-/

namespace TaskRules

namespace Double

attribute [local irreducible] one limit

/-! ## Rounding keeps the order -/

theorem nearest_mono {m n : Nat} (h : m ≤ n) (den : Nat) : nearest m den ≤ nearest n den := by
  rcases Nat.lt_or_eq_of_le (Nat.div_le_div_right h) with less | same
  · calc
      nearest m den ≤ m / den + 1 := nearest_le m den
      _ ≤ n / den := less
      _ ≤ nearest n den := le_nearest n den
  · have rest : m % den ≤ n % den := by
      have hm := Nat.div_add_mod m den
      have hn := Nat.div_add_mod n den
      rw [same] at hm
      omega
    unfold nearest
    rw [same]
    dsimp only
    split_ifs <;> omega

theorem lastPlace_mono {m n : Nat} (h : m ≤ n) : lastPlace m ≤ lastPlace n := by
  have logs : m.log2 ≤ n.log2 := by
    by_cases h0 : m = 0
    · subst h0
      exact Nat.zero_le _
    · exact (Nat.le_log2 (by omega)).mpr ((Nat.log2_self_le h0).trans h)
  exact Nat.pow_le_pow_right (by decide) (Nat.sub_le_sub_right logs 52)

/-- Between numbers with different last places lies a power of two that both stay on their side of. -/
theorem roundSteps_mono {m n : Nat} (h : m ≤ n) (den : Nat) :
    roundSteps m den ≤ roundSteps n den := by
  have quotients : m / den ≤ n / den := Nat.div_le_div_right h
  rcases Nat.lt_or_eq_of_le (lastPlace_mono quotients) with wider | same
  · obtain ⟨k, c, hk, hm, high, -⟩ := roundSteps_places m den
    obtain ⟨l, d, hl, hn, -, low⟩ := roundSteps_places n den
    rw [hk, hl, Nat.pow_lt_pow_iff_right (by decide)] at wider
    have low : 2 ^ 52 ≤ d := low.resolve_left (by omega)
    calc
      roundSteps m den = c * 2 ^ k := hm
      _ ≤ 2 ^ 53 * 2 ^ k := Nat.mul_le_mul_right _ high
      _ = 2 ^ (53 + k) := (pow_add ..).symm
      _ ≤ 2 ^ (52 + l) := Nat.pow_le_pow_right (by decide) (by omega)
      _ = 2 ^ 52 * 2 ^ l := pow_add ..
      _ ≤ d * 2 ^ l := Nat.mul_le_mul_right _ low
      _ = roundSteps n den := hn.symm
  · rw [roundSteps_eq, roundSteps_eq, same]
    exact Nat.mul_le_mul_right _ (nearest_mono h _)

/-! ## Whole numbers as doubles -/

/-- How far a whole number's double is from zero. -/
def size (n : Int) : Nat := min (roundSteps (n.natAbs * one) 1) limit

theorem size_mono {m n : Int} (h : m.natAbs ≤ n.natAbs) : size m ≤ size n := by
  have := roundSteps_mono (Nat.mul_le_mul_right one h) 1
  unfold size
  omega

theorem rank_ofInt (n : Int) : (ofInt n).rank = if n < 0 then -(size n : Int) else size n := by
  unfold ofInt ofSteps size
  dsimp only
  by_cases fits : roundSteps (n.natAbs * one) 1 < limit
  · rw [if_pos fits, Nat.min_eq_left fits.le]
    by_cases negative : n < 0 <;> simp [rank, negative]
  · rw [if_neg fits, Nat.min_eq_right (Nat.le_of_not_lt fits)]
    by_cases negative : n < 0 <;> simp [rank, negative]

/-- Rounding turns no two whole numbers around. -/
theorem rank_ofInt_mono {m n : Int} (h : m ≤ n) : (ofInt m).rank ≤ (ofInt n).rank := by
  rw [rank_ofInt, rank_ofInt]
  rcases lt_or_ge n 0 with negative | positive
  · have := size_mono (m := n) (n := m) (by omega)
    rw [if_pos negative, if_pos (by omega)]
    omega
  · rw [if_neg (not_lt.mpr positive)]
    split
    · omega
    · have := size_mono (m := m) (n := n) (by omega)
      omega

theorem isNaN_ofInt (n : Int) : (ofInt n).isNaN = false := by
  unfold ofInt ofSteps
  dsimp only
  split <;> rfl

/-! ## Up to 2⁵³ -/

theorem near_self {steps : Nat} (rep : IsRepresentable steps) (pos : 0 < steps) :
    Near steps (steps / (1 : Nat) : ℚ) := by
  rw [near_iff rep pos Nat.one_pos]
  have reach : 0 < reachBelow steps := by
    have := lastPlace_pos steps
    unfold reachBelow
    split <;> omega
  have := lastPlace_pos steps
  refine ⟨?_, ?_, .inr ⟨?_, ?_⟩⟩ <;> omega

/-- What can be represented is not rounded. -/
theorem roundSteps_self {steps : Nat} (rep : IsRepresentable steps) : roundSteps steps 1 = steps := by
  rcases Nat.eq_zero_or_pos steps with rfl | pos
  · rfl
  · exact roundSteps_of_near rep pos Nat.one_pos (near_self rep pos)

theorem one_eq : ∃ k, k = 1074 ∧ one = 2 ^ k := ⟨_, rfl, by decide +kernel⟩

theorem roundSteps_whole {n : Nat} (small : n ≤ 2 ^ 53) : roundSteps (n * one) 1 = n * one := by
  obtain ⟨k, -, hone⟩ := one_eq
  rw [hone]
  exact roundSteps_self (isRepresentable_mul small k)

theorem small_lt_limit : 2 ^ 53 * one < limit := by decide +kernel

theorem size_whole {n : Int} (small : n.natAbs ≤ 2 ^ 53) : size n = n.natAbs * one := by
  have := Nat.mul_le_mul_right one small
  have := small_lt_limit
  rw [size, roundSteps_whole small]
  omega

/-- Up to 2⁵³ nothing is rounded. -/
theorem rank_ofInt_small {n : Int} (small : n.natAbs ≤ 2 ^ 53) : (ofInt n).rank = n * one := by
  rw [rank_ofInt, size_whole small, Nat.cast_mul, Int.natCast_natAbs]
  split
  · rename_i negative
    rw [abs_of_neg negative]
    ring
  · rename_i positive
    rw [abs_of_nonneg (not_lt.mp positive)]

/-- Up to 2⁵³ no double is infinite. -/
theorem ofInt_finite {n : Int} (small : n.natAbs ≤ 2 ^ 53) :
    ∃ negative steps, ofInt n = .finite negative steps := by
  have fits : roundSteps (n.natAbs * one) 1 < limit := by
    rw [roundSteps_whole small]
    exact (Nat.mul_le_mul_right one small).trans_lt small_lt_limit
  unfold ofInt ofSteps
  dsimp only
  rw [if_pos fits]
  exact ⟨_, _, rfl⟩

/-! ## Doubles that are told apart -/

/-- Only zero is rounded to zero. -/
theorem size_pos {n : Int} (h : n ≠ 0) : 0 < size n := by
  have least : size 1 ≤ size n := size_mono (by omega)
  have := one_pos
  rw [size_whole (by decide), Int.natAbs_one, Nat.one_mul] at least
  omega

/-- The doubles of whole numbers are told apart by their ranks. -/
theorem ofInt_of_rank {m n : Int} (h : (ofInt m).rank = (ofInt n).rank) : ofInt m = ofInt n := by
  rw [rank_ofInt, rank_ofInt] at h
  have sign : m < 0 ↔ n < 0 := by
    have hm := @size_pos m
    have hn := @size_pos n
    split_ifs at h <;> omega
  have sizes : size m = size n := by
    simp only [sign] at h
    split_ifs at h <;> omega
  unfold size at sizes
  unfold ofInt ofSteps
  dsimp only
  rw [decide_eq_decide.mpr sign]
  by_cases fits : roundSteps (m.natAbs * one) 1 < limit
  · have same : roundSteps (n.natAbs * one) 1 = roundSteps (m.natAbs * one) 1 := by omega
    rw [same]
  · rw [if_neg fits, if_neg (by omega)]

/-- Up to 2⁵³ different whole numbers have different doubles. -/
theorem ofInt_small_injective {m n : Int} (hm : m.natAbs ≤ 2 ^ 53) (hn : n.natAbs ≤ 2 ^ 53)
    (h : ofInt m = ofInt n) : m = n := by
  have ranks := congrArg rank h
  rw [rank_ofInt_small hm, rank_ofInt_small hn] at ranks
  have := one_pos
  exact Int.eq_of_mul_eq_mul_right (by omega) ranks

/-- A whole number's double is less exactly when the number is and the doubles differ. -/
theorem lt_ofInt_iff {m n : Int} :
    (ofInt m).lt (ofInt n) = true ↔ m < n ∧ ofInt m ≠ ofInt n := by
  simp only [lt, isNaN_ofInt, Bool.not_false, Bool.true_and, decide_eq_true_eq]
  constructor
  · intro less
    refine ⟨?_, ?_⟩
    · by_contra above
      have := rank_ofInt_mono (not_lt.mp above)
      omega
    · intro same
      rw [same] at less
      omega
  · rintro ⟨less, differ⟩
    have below := rank_ofInt_mono less.le
    have apart : (ofInt m).rank ≠ (ofInt n).rank := fun same => differ (ofInt_of_rank same)
    omega

/-- Of two whole numbers' doubles, one is at most the other exactly when the other is not less. -/
theorem le_ofInt (m n : Int) : (ofInt m).le (ofInt n) = !(ofInt n).lt (ofInt m) := by
  rw [Bool.eq_iff_iff]
  simp [le, lt, isNaN_ofInt]

end Double

namespace Condition

open Double (ofInt)

/-! ## Comparisons -/

/-- Two whole numbers that are the same or have different doubles. -/
def ToldApart (m n : Int) : Prop := ofInt m = ofInt n → m = n

theorem asNumber_int {n : Int} (fits : (ofInt n).isFinite = true) :
    asNumber (.int n) = some (ofInt n) := by
  -- under another name the conversion is not computed, which would take hundreds of digits
  obtain ⟨toDouble, named⟩ : ∃ f, f = ofInt := ⟨_, rfl⟩
  unfold asNumber
  rw [← named] at fits ⊢
  dsimp only
  cases h : toDouble n with
  | nan => rw [h] at fits; cases fits
  | infinite => rw [h] at fits; cases fits
  | finite => rfl

theorem comparesAs_int {m n : Int} (hm : (ofInt m).isFinite = true)
    (hn : (ofInt n).isFinite = true) (compare : Double → Double → Bool) :
    comparesAs compare (.int m) (.int n) = compare (ofInt m) (ofInt n) := by
  rw [comparesAs, asNumber_int hm, asNumber_int hn]

/-- The comparisons of a whole number with another, both within the range of doubles. They are equal
when they are the same. One is greater, or less, when it is and the doubles tell the two apart; `atLeast`
and `atMost` say the opposite of `less` and `greater`. So at most one of the three holds, and one does
exactly when the two are told apart, as they always are up to 2⁵³. -/
theorem order_of_whole_numbers {m n : Int} (hm : (ofInt m).isFinite = true)
    (hn : (ofInt n).isFinite = true) {payload : Json} {field : String}
    (there : resolve payload field = .ok (some (.int m))) (candidates : Option (List Json)) :
    ∃ greater less equal : Bool,
      evaluate payload (.leaf ⟨.greater, field, .int n, candidates⟩) = .ok greater ∧
      evaluate payload (.leaf ⟨.less, field, .int n, candidates⟩) = .ok less ∧
      evaluate payload (.leaf ⟨.equals, field, .int n, candidates⟩) = .ok equal ∧
      evaluate payload (.leaf ⟨.atLeast, field, .int n, candidates⟩) = .ok (!less) ∧
      evaluate payload (.leaf ⟨.atMost, field, .int n, candidates⟩) = .ok (!greater) ∧
      (greater = true ↔ n < m ∧ ToldApart m n) ∧ (less = true ↔ m < n ∧ ToldApart m n) ∧
      (equal = true ↔ m = n) ∧
      (greater = true ∨ less = true ∨ equal = true ↔ ToldApart m n) ∧
      (m.natAbs ≤ 2 ^ 53 → n.natAbs ≤ 2 ^ 53 → ToldApart m n) := by
  have greater_iff : (ofInt n).lt (ofInt m) = true ↔ n < m ∧ ToldApart m n := by
    rw [Double.lt_ofInt_iff]
    refine and_congr_right fun above => ?_
    exact ⟨fun differ same => absurd same.symm differ, fun apart same => above.ne' (apart same.symm)⟩
  have less_iff : (ofInt m).lt (ofInt n) = true ↔ m < n ∧ ToldApart m n := by
    rw [Double.lt_ofInt_iff]
    refine and_congr_right fun below => ?_
    exact ⟨fun differ same => absurd same differ, fun apart same => below.ne (apart same)⟩
  have equal_iff : strictlyEqual (.int m) (.int n) = true ↔ m = n := by
    simp [strictlyEqual, Json.same, Json.sameNumber, Json.numeric?, Json.Numeric.same]
  refine ⟨(ofInt n).lt (ofInt m), (ofInt m).lt (ofInt n), strictlyEqual (.int m) (.int n),
    ?_, ?_, ?_, ?_, ?_, greater_iff, less_iff, equal_iff, ?_, ?_⟩
  · exact evaluate_present there (comparesAs_int hm hn fun x y => y.lt x)
  · exact evaluate_present there (comparesAs_int hm hn Double.lt)
  · exact evaluate_present there rfl
  · rw [← Double.le_ofInt]
    exact evaluate_present there (comparesAs_int hm hn fun x y => y.le x)
  · rw [← Double.le_ofInt]
    exact evaluate_present there (comparesAs_int hm hn Double.le)
  · rw [greater_iff, less_iff, equal_iff]
    constructor
    · rintro (⟨-, apart⟩ | ⟨-, apart⟩ | same)
      · exact apart
      · exact apart
      · exact fun _ => same
    · intro apart
      rcases lt_trichotomy m n with below | same | above
      · exact .inr (.inl ⟨below, apart⟩)
      · exact .inr (.inr same)
      · exact .inl ⟨above, apart⟩
  · exact Double.ofInt_small_injective

/-- Two moments in nanoseconds, a whole rounding step apart. -/
theorem moments_are_told_apart :
    let payload : Json := .obj [("at", .int 1700000000000000256)]
    let compared (op : Operator) : Tree := .leaf ⟨op, "at", .int 1700000000000000000, none⟩
    (ofInt 1700000000000000256).isFinite = true ∧ (ofInt 1700000000000000000).isFinite = true ∧
      resolve payload "at" = .ok (some (.int 1700000000000000256)) ∧
      evaluate payload (compared .greater) = .ok true ∧
      evaluate payload (compared .atMost) = .ok false := by
  have later : (ofInt 1700000000000000256).isFinite = true := by decide +kernel
  have earlier : (ofInt 1700000000000000000).isFinite = true := by decide +kernel
  have apart : ofInt 1700000000000000256 ≠ ofInt 1700000000000000000 := by decide +kernel
  have there : resolve (.obj [("at", .int 1700000000000000256)]) "at" =
      .ok (some (.int 1700000000000000256)) := rfl
  obtain ⟨greater, _, _, compared, -, -, -, opposite, greater_iff, -⟩ :=
    order_of_whole_numbers later earlier there none
  obtain rfl : greater = true := greater_iff.mpr ⟨by decide, fun same => absurd same apart⟩
  exact ⟨later, earlier, there, compared, opposite⟩

/-- A comparison of two whole numbers beyond 2⁵³ that have one double. -/
theorem neighbours_are_not_told_apart :
    let payload : Json := .obj [("n", .int 9007199254740993)]
    let compared (op : Operator) : Tree := .leaf ⟨op, "n", .int 9007199254740992, none⟩
    (ofInt 9007199254740993).isFinite = true ∧ (ofInt 9007199254740992).isFinite = true ∧
      evaluate payload (compared .greater) = .ok false ∧
      evaluate payload (compared .less) = .ok false ∧
      evaluate payload (compared .equals) = .ok false ∧
      evaluate payload (compared .atMost) = .ok true := by
  decide +kernel

end Condition
end TaskRules
