import Mathlib.Data.Nat.Log
import Mathlib.Data.Rat.Floor
import Mathlib.Tactic.FieldSimp
import Mathlib.Tactic.Linarith
import Mathlib.Tactic.Ring
import TaskRules.Number.Shortest

/-!
How decimals are rounded to doubles. A count of steps is representable when it is a multiple of its
last place, and it is what every number is rounded to that lies in its rounding interval (`Near`);
an end belongs to the interval when the count is even in its last place, since ties are rounded to
even. Below a power of two the interval reaches half as far, because the counts are closer there.

Proved:
- `roundSteps_isRepresentable`, `ofDecimal_inFormat`: what rounding gives can be represented.
- `near_iff`: membership in an interval, in whole numbers.
- `roundSteps_of_near`, `ofDecimal_of_near`: a number, and so a decimal, in the interval of a
  double is rounded to that double.
-/

namespace TaskRules.Double

/-! ## The last place -/

/-- The last place of a count of steps: how far the representable counts around it are apart. -/
def lastPlace (steps : Nat) : Nat := 2 ^ (steps.log2 - 52)

/-- A count of steps that 53 bits can write. -/
def IsRepresentable (steps : Nat) : Prop := lastPlace steps ∣ steps

theorem lastPlace_eq {k w : Nat} (below : w < 2 ^ (53 + k)) (above : k = 0 ∨ 2 ^ (52 + k) ≤ w) :
    lastPlace w = 2 ^ k := by
  have hw : w.log2 - 52 = k := by
    rcases above with rfl | above
    · by_cases h0 : w = 0
      · subst h0; rfl
      · have := (Nat.log2_lt h0).mpr below
        omega
    · have h0 : w ≠ 0 := by
        have := Nat.two_pow_pos (52 + k)
        omega
      have h1 := (Nat.log2_lt h0).mpr below
      have h2 := (Nat.le_log2 h0).mpr above
      omega
  rw [lastPlace, hw]

/-- A count of steps, by its last place: fewer than 2⁵³ of them, and at least 2⁵² unless the last
place is a step. -/
theorem exists_lastPlace (steps : Nat) :
    ∃ k, lastPlace steps = 2 ^ k ∧ steps < 2 ^ (53 + k) ∧ (k = 0 ∨ 2 ^ (52 + k) ≤ steps) := by
  refine ⟨steps.log2 - 52, rfl, ?_, ?_⟩
  · by_cases h0 : steps = 0
    · subst h0; exact Nat.two_pow_pos _
    · exact (Nat.log2_lt h0).mp (by omega)
  · by_cases h : steps.log2 ≤ 52
    · left; omega
    · right
      have h0 : steps ≠ 0 := by
        rintro rfl
        exact h (by decide)
      exact (Nat.le_log2 h0).mp (by omega)

theorem lastPlace_pos (steps : Nat) : 0 < lastPlace steps := Nat.two_pow_pos _

/-- A multiple of a power of two by at most 2⁵³ can be represented. -/
theorem isRepresentable_mul {m : Nat} (small : m ≤ 2 ^ 53) (k : Nat) :
    IsRepresentable (m * 2 ^ k) := by
  rcases Nat.lt_or_eq_of_le small with less | rfl
  · obtain ⟨j, hj, -, above⟩ := exists_lastPlace (m * 2 ^ k)
    have small : m * 2 ^ k < 2 ^ (53 + k) := by
      rw [pow_add]
      exact Nat.mul_lt_mul_of_pos_right less (Nat.two_pow_pos k)
    have places : j ≤ k := by
      rcases above with rfl | above
      · exact Nat.zero_le k
      · have := (Nat.pow_lt_pow_iff_right (by decide)).mp (above.trans_lt small)
        omega
    rw [IsRepresentable, hj]
    exact (Nat.pow_dvd_pow 2 places).trans (Nat.dvd_mul_left ..)
  · -- a power of two has a last place twice as wide as the numbers below it
    have place : lastPlace (2 ^ 53 * 2 ^ k) = 2 ^ (k + 1) := by
      rw [← pow_add]
      exact lastPlace_eq (Nat.pow_lt_pow_right (by decide) (by omega))
        (.inr (Nat.pow_le_pow_right (by decide) (by omega)))
    rw [IsRepresentable, place, ← pow_add]
    exact Nat.pow_dvd_pow 2 (by omega)

/-! ## Rounding -/

/-- The nearest whole number is the one within a half, an even one at a half. -/
theorem nearest_eq {num den m : Nat} (hden : 0 < den) (low : 2 * (m * den) ≤ 2 * num + den)
    (high : 2 * num ≤ 2 * (m * den) + den)
    (tie : m % 2 = 0 ∨ 2 * (m * den) < 2 * num + den ∧ 2 * num < 2 * (m * den) + den) :
    nearest num den = m := by
  have hsplit := Nat.div_add_mod num den
  have hrest := Nat.mod_lt num hden
  unfold nearest
  set q := num / den
  set r := num % den
  have hm : m = q ∨ m = q + 1 := by
    have h1 : m < q + 2 := by
      refine Nat.lt_of_mul_lt_mul_right (a := den) ?_
      have : (q + 2) * den = den * q + 2 * den := by ring
      omega
    have h2 : q < m + 1 := by
      refine Nat.lt_of_mul_lt_mul_right (a := den) ?_
      have h3 : (m + 1) * den = m * den + den := by ring
      have h4 : q * den = den * q := Nat.mul_comm ..
      omega
    omega
  rcases hm with rfl | rfl
  · have : q * den = den * q := Nat.mul_comm ..
    dsimp only
    split
    · rfl
    · split
      · omega
      · split <;> omega
  · have : (q + 1) * den = den * q + den := by ring
    dsimp only
    split
    · omega
    · split
      · rfl
      · split <;> omega

theorem le_nearest (num den : Nat) : num / den ≤ nearest num den := by
  unfold nearest
  dsimp only
  split
  · exact Nat.le_refl _
  · split
    · exact Nat.le_succ _
    · split
      · exact Nat.le_refl _
      · exact Nat.le_succ _

theorem nearest_le (num den : Nat) : nearest num den ≤ num / den + 1 := by
  unfold nearest
  dsimp only
  split
  · exact Nat.le_succ _
  · split
    · exact Nat.le_refl _
    · split
      · exact Nat.le_succ _
      · exact Nat.le_refl _

/-- Rounding keeps whole last places of what is rounded. -/
theorem roundSteps_eq (num den : Nat) :
    roundSteps num den =
      nearest num (den * lastPlace (num / den)) * lastPlace (num / den) := by
  unfold roundSteps
  dsimp only
  split
  · rename_i h
    rw [lastPlace_eq (k := 0) h (.inl rfl), pow_zero, Nat.mul_one, Nat.mul_one]
  · rfl

/-- What is rounded, counted in its last places: at most 2⁵³ of them, and at least 2⁵² unless the last
place is a step. -/
theorem roundSteps_places (num den : Nat) :
    ∃ k c, lastPlace (num / den) = 2 ^ k ∧ roundSteps num den = c * 2 ^ k ∧ c ≤ 2 ^ 53 ∧
      (k = 0 ∨ 2 ^ 52 ≤ c) := by
  obtain ⟨k, hk, below, above⟩ := exists_lastPlace (num / den)
  have hpos := Nat.two_pow_pos k
  have hq : num / (den * 2 ^ k) = num / den / 2 ^ k := (Nat.div_div_eq_div_mul ..).symm
  refine ⟨k, nearest num (den * 2 ^ k), hk, by rw [roundSteps_eq, hk], ?_, ?_⟩
  · have hlt : num / den / 2 ^ k < 2 ^ 53 := by
      rw [Nat.div_lt_iff_lt_mul hpos, ← pow_add]
      exact below
    have := nearest_le num (den * 2 ^ k)
    omega
  · refine above.imp_right fun h => le_trans ?_ (le_nearest _ _)
    rw [hq, Nat.le_div_iff_mul_le hpos, ← pow_add]
    exact h

/-- What is rounded can be written in 53 bits. -/
theorem roundSteps_isRepresentable (num den : Nat) : IsRepresentable (roundSteps num den) := by
  obtain ⟨k, c, -, counted, high, -⟩ := roundSteps_places num den
  rw [counted]
  exact isRepresentable_mul high k

/-! ## The rounding interval -/

/-- A number of steps lies in the interval of a count: past the ends, or at an end of an interval
that they belong to. -/
def Near (steps : Nat) (x : ℚ) : Prop :=
  ((interval steps).1 : ℚ) ≤ 4 * x ∧ 4 * x ≤ ((interval steps).2.1 : ℚ) ∧
    ((interval steps).2.2 = true ∨
      ((interval steps).1 : ℚ) < 4 * x ∧ 4 * x < ((interval steps).2.1 : ℚ))

/-- How far the interval of a count of steps reaches down, in quarter steps: less far at the powers
of two, below which the counts are closer together. -/
def reachBelow (steps : Nat) : Nat :=
  if lastPlace steps > 1 ∧ steps = lastPlace steps * 2 ^ 52 then lastPlace steps
  else 2 * lastPlace steps

theorem interval_eq (steps : Nat) :
    interval steps = (4 * steps - reachBelow steps, 4 * steps + 2 * lastPlace steps,
      steps / lastPlace steps % 2 == 0) := by
  have unit : (if steps < Nat.pow 2 53 then 1 else Nat.pow 2 (steps.log2 - 52)) =
      lastPlace steps := by
    split
    · rename_i h
      exact (lastPlace_eq (k := 0) h (.inl rfl)).symm
    · rfl
  rw [interval, unit]
  rfl

theorem lastPlace_le {steps : Nat} (rep : IsRepresentable steps) (pos : 0 < steps) :
    lastPlace steps ≤ steps :=
  Nat.le_of_dvd pos rep

theorem reachBelow_le (steps : Nat) : reachBelow steps ≤ 2 * lastPlace steps := by
  unfold reachBelow
  split <;> omega

/-- Membership in an interval, for a fraction. -/
theorem near_iff {steps num den : Nat} (rep : IsRepresentable steps) (pos : 0 < steps)
    (hden : 0 < den) :
    Near steps (num / den : ℚ) ↔
      4 * (steps * den) ≤ 4 * num + reachBelow steps * den ∧
      4 * num ≤ 4 * (steps * den) + 2 * (lastPlace steps * den) ∧
      (steps / lastPlace steps % 2 = 0 ∨
        4 * (steps * den) < 4 * num + reachBelow steps * den ∧
        4 * num < 4 * (steps * den) + 2 * (lastPlace steps * den)) := by
  have hq : (0 : ℚ) < den := by exact_mod_cast hden
  have hle : reachBelow steps ≤ 4 * steps := by
    have := reachBelow_le steps
    have := lastPlace_le rep pos
    omega
  have hlow : ((4 * steps - reachBelow steps : Nat) : ℚ) = 4 * steps - reachBelow steps := by
    push_cast [Nat.cast_sub hle]
    ring
  have four : (4 : ℚ) * (num / den) = 4 * num / den := by ring
  unfold Near
  rw [interval_eq]
  dsimp only
  rw [hlow, four, le_div_iff₀ hq, div_le_iff₀ hq, lt_div_iff₀ hq, div_lt_iff₀ hq, beq_iff_eq]
  have h1 : (4 * (steps : ℚ) - reachBelow steps) * den ≤ 4 * num ↔
      4 * (steps * den) ≤ 4 * num + reachBelow steps * den := by
    rw [← Nat.cast_le (α := ℚ)]
    push_cast
    constructor <;> intro h <;> linarith
  have h2 : (4 * (num : ℚ) ≤ ((4 * steps + 2 * lastPlace steps : Nat) : ℚ) * den) ↔
      4 * num ≤ 4 * (steps * den) + 2 * (lastPlace steps * den) := by
    rw [← Nat.cast_le (α := ℚ)]
    push_cast
    constructor <;> intro h <;> linarith
  have h3 : (4 * (steps : ℚ) - reachBelow steps) * den < 4 * num ↔
      4 * (steps * den) < 4 * num + reachBelow steps * den := by
    rw [← Nat.cast_lt (α := ℚ)]
    push_cast
    constructor <;> intro h <;> linarith
  have h4 : (4 * (num : ℚ) < ((4 * steps + 2 * lastPlace steps : Nat) : ℚ) * den) ↔
      4 * num < 4 * (steps * den) + 2 * (lastPlace steps * den) := by
    rw [← Nat.cast_lt (α := ℚ)]
    push_cast
    constructor <;> intro h <;> linarith
  rw [h1, h2, h3, h4]

/-- A fraction is rounded to a multiple of its last place. -/
theorem roundSteps_place {num den k m : Nat} (hden : 0 < den) (below : num < 2 ^ (53 + k) * den)
    (above : k = 0 ∨ 2 ^ (52 + k) * den ≤ num)
    (low : 2 * (m * (den * 2 ^ k)) ≤ 2 * num + den * 2 ^ k)
    (high : 2 * num ≤ 2 * (m * (den * 2 ^ k)) + den * 2 ^ k)
    (tie : m % 2 = 0 ∨ 2 * (m * (den * 2 ^ k)) < 2 * num + den * 2 ^ k ∧
      2 * num < 2 * (m * (den * 2 ^ k)) + den * 2 ^ k) :
    roundSteps num den = m * 2 ^ k := by
  have place : lastPlace (num / den) = 2 ^ k :=
    lastPlace_eq ((Nat.div_lt_iff_lt_mul hden).mpr below)
      (above.imp_right (Nat.le_div_iff_mul_le hden).mpr)
  rw [roundSteps_eq, place, nearest_eq (Nat.mul_pos hden (Nat.two_pow_pos k)) low high tie]

/-- Above the lowest point of its place, and at that point upwards, a count's interval is rounded
within its own place. -/
theorem roundSteps_own_place {num den k m : Nat} (hden : 0 < den) (hm53 : m < 2 ^ 53)
    (above : k = 0 ∨ 2 ^ 52 < m ∨ m = 2 ^ 52 ∧ m * (den * 2 ^ k) ≤ num)
    (low : 4 * (m * (den * 2 ^ k)) ≤ 4 * num + 2 * (den * 2 ^ k))
    (high : 4 * num ≤ 4 * (m * (den * 2 ^ k)) + 2 * (den * 2 ^ k))
    (tie : m % 2 = 0 ∨ 4 * (m * (den * 2 ^ k)) < 4 * num + 2 * (den * 2 ^ k) ∧
      4 * num < 4 * (m * (den * 2 ^ k)) + 2 * (den * 2 ^ k)) :
    roundSteps num den = m * 2 ^ k := by
  have hU : 0 < den * 2 ^ k := Nat.mul_pos hden (Nat.two_pow_pos k)
  have pow53 : 2 ^ (53 + k) * den = 2 ^ 53 * (den * 2 ^ k) := by rw [pow_add]; ring
  have pow52 : 2 ^ (52 + k) * den = 2 ^ 52 * (den * 2 ^ k) := by rw [pow_add]; ring
  have next : (m + 1) * (den * 2 ^ k) ≤ 2 ^ 53 * (den * 2 ^ k) := Nat.mul_le_mul_right _ hm53
  have step : (m + 1) * (den * 2 ^ k) = m * (den * 2 ^ k) + den * 2 ^ k := by ring
  refine roundSteps_place hden (by omega) ?_ (by omega) (by omega) (by omega)
  rw [pow52]
  rcases above with h | h | ⟨rfl, h⟩
  · exact .inl h
  · have := Nat.mul_le_mul_right (den * 2 ^ k) (Nat.succ_le_of_lt h)
    have : (2 ^ 52).succ * (den * 2 ^ k) = 2 ^ 52 * (den * 2 ^ k) + den * 2 ^ k := by
      rw [Nat.succ_mul]
    omega
  · exact .inr h

/-- Just below a power of two, a number is rounded to it from the narrower place. -/
theorem roundSteps_lower_place {num den k : Nat} (hden : 0 < den)
    (low : 4 * (2 ^ 53 * (den * 2 ^ k)) ≤ 4 * num + 2 * (den * 2 ^ k))
    (high : num < 2 ^ 53 * (den * 2 ^ k)) : roundSteps num den = 2 ^ 53 * 2 ^ k := by
  have pow53 : 2 ^ (53 + k) * den = 2 ^ 53 * (den * 2 ^ k) := by rw [pow_add]; ring
  have pow52 : 2 ^ (52 + k) * den = 2 ^ 52 * (den * 2 ^ k) := by rw [pow_add]; ring
  exact roundSteps_place hden (by omega) (.inr (by omega)) (by omega) (by omega) (.inl rfl)

/-- What lies in the interval of a count of steps is rounded to that count. -/
theorem roundSteps_of_near {steps num den : Nat} (rep : IsRepresentable steps) (pos : 0 < steps)
    (hden : 0 < den) (near : Near steps (num / den : ℚ)) : roundSteps num den = steps := by
  obtain ⟨low, high, tie⟩ := (near_iff rep pos hden).mp near
  obtain ⟨k, hk, below, above⟩ := exists_lastPlace steps
  have hpos := Nat.two_pow_pos k
  obtain ⟨m, hm⟩ : 2 ^ k ∣ steps := hk ▸ rep
  have hdiv : steps / 2 ^ k = m := by rw [hm, Nat.mul_div_cancel_left _ hpos]
  have hm53 : m < 2 ^ 53 := by
    rw [← hdiv, Nat.div_lt_iff_lt_mul hpos, ← pow_add]
    exact below
  have hm52 : k = 0 ∨ 2 ^ 52 ≤ m := by
    refine above.imp_right fun h => ?_
    rw [← hdiv, Nat.le_div_iff_mul_le hpos, ← pow_add]
    exact h
  have hsteps : steps * den = m * (den * 2 ^ k) := by rw [hm]; ring
  have hplace : 2 ^ k * den = den * 2 ^ k := Nat.mul_comm ..
  simp only [hk, hdiv, hsteps, hplace] at low high tie
  rw [hm, Nat.mul_comm (2 ^ k)]
  by_cases boundary : 1 < lastPlace steps ∧ steps = lastPlace steps * 2 ^ 52
  · have hreach : reachBelow steps * den = den * 2 ^ k := by
      rw [reachBelow, if_pos boundary, hk, hplace]
    obtain ⟨hone, hsteps'⟩ := boundary
    obtain rfl : m = 2 ^ 52 := by
      rw [hk, hm] at hsteps'
      exact Nat.eq_of_mul_eq_mul_left hpos hsteps'
    rw [hreach] at low
    by_cases hn : 2 ^ 52 * (den * 2 ^ k) ≤ num
    · exact roundSteps_own_place hden hm53 (.inr (.inr ⟨rfl, hn⟩)) (by omega) high (.inl rfl)
    · obtain ⟨j, rfl⟩ : ∃ j, k = j + 1 := by
        refine Nat.exists_eq_succ_of_ne_zero ?_
        rintro rfl
        rw [hk] at hone
        exact absurd hone (by decide)
      have double : den * 2 ^ (j + 1) = 2 * (den * 2 ^ j) := by rw [pow_succ]; ring
      rw [double] at low hn
      rw [roundSteps_lower_place (k := j) hden (by omega) (by omega), pow_succ]
      ring
  · have hreach : reachBelow steps * den = 2 * (den * 2 ^ k) := by
      rw [reachBelow, if_neg boundary, hk]; ring
    rw [hreach] at low tie
    refine roundSteps_own_place hden hm53 ?_ low high tie
    refine hm52.elim .inl fun h => ?_
    rcases Nat.lt_or_eq_of_le h with h | h
    · exact .inr (.inl h)
    · refine .inl ?_
      by_contra hk0
      refine boundary ⟨?_, by rw [hk, h, hm]⟩
      rw [hk]
      exact Nat.one_lt_two_pow hk0

/-! ## Decimals -/

theorem one_pos : 0 < one := by decide +kernel

theorem limit_pos : 0 < limit := by decide +kernel

theorem two_mul_limit_lt : 2 * limit < 10 ^ 310 * one := by decide +kernel

theorem two_mul_one_lt : 2 * one < 10 ^ 330 := by decide +kernel

-- both are numbers of hundreds of digits, which no proof below computes
attribute [local irreducible] one limit

/-- Doubles that binary64 has: the finite ones are written in 53 bits and below the limit. -/
def InFormat : Double → Prop
  | .finite _ steps => IsRepresentable steps ∧ steps < limit
  | _ => True

theorem ofSteps_inFormat (negative : Bool) (num den : Nat) :
    (ofSteps negative num den).InFormat := by
  by_cases h : roundSteps num den < limit
  · rw [ofSteps, if_pos h]
    exact ⟨roundSteps_isRepresentable num den, h⟩
  · rw [ofSteps, if_neg h]
    trivial

theorem zero_inFormat (negative : Bool) : (finite negative 0).InFormat :=
  ⟨⟨0, rfl⟩, limit_pos⟩

/-- What is read from a decimal is a double that binary64 has. -/
theorem ofDecimal_inFormat (negative : Bool) (digits : Nat) (exponent : Int) :
    (ofDecimal negative digits exponent).InFormat := by
  simp only [ofDecimal]
  by_cases h0 : digits = 0
  · rw [if_pos h0]
    exact zero_inFormat negative
  rw [if_neg h0]
  by_cases h1 : ((Nat.toDigits 10 digits).length : Int) + exponent > 310
  · rw [if_pos h1]
    trivial
  rw [if_neg h1]
  by_cases h2 : ((Nat.toDigits 10 digits).length : Int) + exponent < -330
  · rw [if_pos h2]
    exact zero_inFormat negative
  rw [if_neg h2]
  by_cases h3 : exponent ≥ 0
  · rw [if_pos h3]
    exact ofSteps_inFormat ..
  · rw [if_neg h3]
    exact ofSteps_inFormat ..

theorem ofSteps_of_near {steps num den : Nat} (rep : IsRepresentable steps) (pos : 0 < steps)
    (fits : steps < limit) (hden : 0 < den) (near : Near steps (num / den : ℚ)) (negative : Bool) :
    ofSteps negative num den = .finite negative steps := by
  rw [ofSteps, roundSteps_of_near rep pos hden near]
  exact if_pos fits

/-- The interval of a count of steps lies between its half and its double. -/
theorem near_bounds {steps : Nat} {x : ℚ} (rep : IsRepresentable steps) (pos : 0 < steps)
    (near : Near steps x) : (steps : ℚ) ≤ 2 * x ∧ x ≤ 2 * steps := by
  obtain ⟨low, high, -⟩ := near
  rw [interval_eq] at low high
  dsimp only at low high
  have hplace := lastPlace_le rep pos
  have hreach := reachBelow_le steps
  have h1 : 2 * steps ≤ 4 * steps - reachBelow steps := by omega
  have h2 : 4 * steps + 2 * lastPlace steps ≤ 8 * steps := by omega
  have h1' : (2 * steps : ℚ) ≤ ((4 * steps - reachBelow steps : Nat) : ℚ) := by exact_mod_cast h1
  have h2' : ((4 * steps + 2 * lastPlace steps : Nat) : ℚ) ≤ 8 * steps := by exact_mod_cast h2
  constructor <;> linarith

/-- The number that a decimal writes. -/
def decimalValue (digits : Nat) (exponent : Int) : ℚ := digits * 10 ^ exponent

/-- A number lies below the power of ten that its decimal's length tells. -/
theorem decimalValue_lt (digits : Nat) (exponent : Int) :
    decimalValue digits exponent < 10 ^ ((Nat.toDigits 10 digits).length + exponent : Int) := by
  have h : digits < 10 ^ (Nat.toDigits 10 digits).length :=
    (Nat.length_toDigits_le_iff (by decide) Nat.length_toDigits_pos).mp (Nat.le_refl _)
  have h' : (digits : ℚ) < 10 ^ (Nat.toDigits 10 digits).length := by exact_mod_cast h
  rw [decimalValue, zpow_add₀ (by norm_num), zpow_natCast]
  exact mul_lt_mul_of_pos_right h' (zpow_pos (by norm_num) _)

/-- A positive number is not below the power of ten of its first digit. -/
theorem le_decimalValue {digits : Nat} (h0 : digits ≠ 0) (exponent : Int) :
    10 ^ ((Nat.toDigits 10 digits).length + exponent - 1 : Int) ≤ decimalValue digits exponent := by
  have h : 10 ^ ((Nat.toDigits 10 digits).length - 1) ≤ digits := by
    by_cases h1 : (Nat.toDigits 10 digits).length - 1 = 0
    · rw [h1]; omega
    · by_contra hlt
      have := (Nat.length_toDigits_le_iff (b := 10) (n := digits) (by decide)
        (Nat.pos_of_ne_zero h1)).mpr (by omega)
      omega
  have h' : (10 : ℚ) ^ ((Nat.toDigits 10 digits).length - 1) ≤ digits := by exact_mod_cast h
  have hl : 0 < (Nat.toDigits 10 digits).length := Nat.length_toDigits_pos
  have split : ((Nat.toDigits 10 digits).length + exponent - 1 : Int) =
      ((Nat.toDigits 10 digits).length - 1 : Nat) + exponent := by
    omega
  rw [decimalValue, split, zpow_add₀ (by norm_num), zpow_natCast]
  exact mul_le_mul_of_nonneg_right h' (zpow_pos (by norm_num) _).le

/-- A decimal of a finite double is not cut off for its length: it lies between the powers of ten at
which decimals are. -/
theorem length_bounds {digits : Nat} {exponent : Int} (h0 : digits ≠ 0)
    (low : 1 ≤ 2 * (decimalValue digits exponent * one))
    (high : decimalValue digits exponent * one < 2 * limit) :
    ((Nat.toDigits 10 digits).length + exponent : Int) ≤ 310 ∧
      -330 ≤ ((Nat.toDigits 10 digits).length + exponent : Int) := by
  have hone : (0 : ℚ) < one := by exact_mod_cast one_pos
  have ten : (1 : ℚ) < 10 := by norm_num
  constructor
  · have hlimit : (2 : ℚ) * limit < 10 ^ 310 * one := by
      have := Nat.cast_lt (α := ℚ).mpr two_mul_limit_lt
      simpa only [Nat.cast_mul, Nat.cast_pow, Nat.cast_ofNat] using this
    have hvalue : decimalValue digits exponent < 10 ^ 310 :=
      lt_of_mul_lt_mul_right (high.trans hlimit) hone.le
    have hlt := (le_decimalValue h0 exponent).trans_lt hvalue
    rw [← zpow_natCast, zpow_lt_zpow_iff_right₀ ten] at hlt
    push_cast at hlt
    omega
  · have htwo : (2 : ℚ) * one < 10 ^ 330 := by
      have := Nat.cast_lt (α := ℚ).mpr two_mul_one_lt
      simpa only [Nat.cast_mul, Nat.cast_pow, Nat.cast_ofNat] using this
    have hpos : 0 < decimalValue digits exponent :=
      (zpow_pos (by norm_num) _).trans_le (le_decimalValue h0 exponent)
    have hvalue : 1 < 10 ^ ((Nat.toDigits 10 digits).length + exponent : Int) * (10 : ℚ) ^ 330 :=
      calc (1 : ℚ) ≤ decimalValue digits exponent * (2 * one) := by linarith
        _ < decimalValue digits exponent * 10 ^ 330 := mul_lt_mul_of_pos_left htwo hpos
        _ < _ := mul_lt_mul_of_pos_right (decimalValue_lt digits exponent) (by positivity)
    rw [← zpow_natCast, ← zpow_add₀ (by norm_num), one_lt_zpow_iff_right₀ ten] at hvalue
    push_cast at hvalue
    omega

/-- A decimal in the interval of a positive double is read as that double. -/
theorem ofDecimal_of_near {steps digits : Nat} {exponent : Int} (rep : IsRepresentable steps)
    (pos : 0 < steps) (fits : steps < limit)
    (near : Near steps (decimalValue digits exponent * one))
    (negative : Bool) : ofDecimal negative digits exponent = .finite negative steps := by
  obtain ⟨low, high⟩ := near_bounds rep pos near
  have hpos : (1 : ℚ) ≤ steps := by exact_mod_cast pos
  have hfits : (steps : ℚ) < limit := by exact_mod_cast fits
  have h0 : digits ≠ 0 := by
    rintro rfl
    simp only [decimalValue, Nat.cast_zero, zero_mul] at low
    linarith
  obtain ⟨hhigh, hlow⟩ := length_bounds h0 (by linarith) (by linarith)
  simp only [ofDecimal]
  rw [if_neg h0, if_neg (by omega), if_neg (by omega)]
  by_cases he : exponent ≥ 0
  · rw [if_pos he]
    obtain ⟨e, rfl⟩ := Int.eq_ofNat_of_zero_le he
    refine ofSteps_of_near rep pos fits Nat.one_pos ?_ negative
    have same : ((digits * Nat.pow 10 e * one : Nat) : ℚ) / (1 : Nat) =
        decimalValue digits e * one := by
      simp only [decimalValue, zpow_natCast, Nat.pow_eq]
      push_cast
      ring
    rw [Int.toNat_natCast, same]
    exact near
  · rw [if_neg he]
    obtain ⟨e, rfl⟩ : ∃ e : Nat, exponent = -e := ⟨(-exponent).toNat, by omega⟩
    rw [neg_neg, Int.toNat_natCast, Nat.pow_eq]
    refine ofSteps_of_near rep pos fits (Nat.pow_pos (by decide)) ?_ negative
    have same : ((digits * one : Nat) : ℚ) / (10 ^ e : Nat) = decimalValue digits (-e) * one := by
      simp only [decimalValue, zpow_neg, zpow_natCast]
      push_cast
      ring
    rw [same]
    exact near

end TaskRules.Double
