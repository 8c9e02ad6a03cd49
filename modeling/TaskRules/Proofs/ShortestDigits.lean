import TaskRules.Proofs.Rounding

/-!
The decimal that a double is written as. It is the point nearest to the double on the coarsest grid
of decimals that has a point in the rounding interval. Some grid has one: with seventeen digits the
spacing is no more than the width of the interval on either side.

Proved:
- `gridPoint?_near`: a point that is chosen lies in the interval.
- `reaches_leadingPower`, `seventeen_digits`: the leading power is found, and the grid of seventeen
  digits below it has a point.
- `shortest_near`: so the decimal that is written is rounded to the double.
-/

namespace TaskRules.Double

/-! ## Grids -/

/-- A grid's spacing in steps, as a fraction: the numerator. -/
def spacingUp (spacing : Int) : Nat := if spacing ≥ 0 then Nat.pow 10 spacing.toNat * one else one

/-- A grid's spacing in steps, as a fraction: the denominator. -/
def spacingDown (spacing : Int) : Nat := if spacing ≥ 0 then 1 else Nat.pow 10 (-spacing).toNat

/-- Whether a point of a grid lies in the rounding interval. -/
def isInside (steps up down c : Nat) : Bool :=
  if (interval steps).2.2 then
    decide ((interval steps).1 * down ≤ 4 * (c * up)) &&
      decide (4 * (c * up) ≤ (interval steps).2.1 * down)
  else
    decide ((interval steps).1 * down < 4 * (c * up)) &&
      decide (4 * (c * up) < (interval steps).2.1 * down)

/-- Of two neighbouring points of a grid, the one inside, or the nearer one of two. -/
def choose (value up c : Nat) (lowIn highIn : Bool) : Option Nat :=
  if lowIn && highIn then
    if value - c * up < (c + 1) * up - value then some c
    else if (c + 1) * up - value < value - c * up then some (c + 1)
    else if c % 2 = 0 then some c else some (c + 1)
  else if lowIn then some c
  else if highIn then some (c + 1)
  else none

theorem gridPoint?_eq (steps : Nat) (power : Int) (count : Nat) :
    gridPoint? steps power count =
      let up := spacingUp (power - count + 1)
      let down := spacingDown (power - count + 1)
      let c := steps * down / up
      choose (steps * down) up c (isInside steps up down c && c != 0)
        (isInside steps up down (c + 1)) :=
  rfl

theorem choose_eq_some {value up c p : Nat} {lowIn highIn : Bool}
    (h : choose value up c lowIn highIn = some p) :
    p = c ∧ lowIn = true ∨ p = c + 1 ∧ highIn = true := by
  unfold choose at h
  cases lowIn <;> cases highIn <;> simp only [Bool.and_self, Bool.and_false, Bool.false_and,
    if_true, if_false, Bool.false_eq_true] at h
  · cases h
  · cases h
    exact .inr ⟨rfl, rfl⟩
  · cases h
    exact .inl ⟨rfl, rfl⟩
  · split_ifs at h <;> cases h
    · exact .inl ⟨rfl, rfl⟩
    · exact .inr ⟨rfl, rfl⟩
    · exact .inl ⟨rfl, rfl⟩
    · exact .inr ⟨rfl, rfl⟩

theorem choose_eq_none {value up c : Nat} {lowIn highIn : Bool}
    (h : choose value up c lowIn highIn = none) : lowIn = false ∧ highIn = false := by
  unfold choose at h
  cases lowIn <;> cases highIn <;> simp only [Bool.and_self, Bool.and_false, Bool.false_and,
    if_true, if_false, Bool.false_eq_true] at h
  · exact ⟨rfl, rfl⟩
  · cases h
  · cases h
  · split_ifs at h

theorem spacingUp_pos (spacing : Int) : 0 < spacingUp spacing := by
  unfold spacingUp
  split
  · exact Nat.mul_pos (Nat.pow_pos (by decide)) one_pos
  · exact one_pos

theorem spacingDown_pos (spacing : Int) : 0 < spacingDown spacing := by
  unfold spacingDown
  split
  · exact Nat.one_pos
  · exact Nat.pow_pos (by decide)

/-- A grid's spacing is a power of ten. -/
theorem spacing_eq (spacing : Int) :
    (spacingUp spacing : ℚ) / spacingDown spacing = (10 : ℚ) ^ spacing * one := by
  unfold spacingUp spacingDown
  by_cases h : spacing ≥ 0
  · obtain ⟨n, rfl⟩ := Int.eq_ofNat_of_zero_le h
    rw [if_pos h, if_pos h, Int.toNat_natCast, Nat.pow_eq, zpow_natCast]
    push_cast
    ring
  · obtain ⟨n, rfl⟩ : ∃ n : Nat, spacing = -n := ⟨(-spacing).toNat, by omega⟩
    rw [if_neg h, if_neg h, neg_neg, Int.toNat_natCast, Nat.pow_eq, zpow_neg, zpow_natCast]
    push_cast
    ring

/-- A point inside the interval is a decimal that is rounded to the count of steps. -/
theorem near_of_isInside {steps c : Nat} {spacing : Int}
    (h : isInside steps (spacingUp spacing) (spacingDown spacing) c = true) :
    Near steps (decimalValue c spacing * one) := by
  have hdown : (0 : ℚ) < spacingDown spacing := by exact_mod_cast spacingDown_pos spacing
  have value : 4 * (decimalValue c spacing * one) =
      ((4 * (c * spacingUp spacing) : Nat) : ℚ) / spacingDown spacing := by
    rw [decimalValue, mul_assoc, ← spacing_eq]
    push_cast
    ring
  unfold isInside at h
  unfold Near
  rw [value, le_div_iff₀ hdown, div_le_iff₀ hdown, lt_div_iff₀ hdown, div_lt_iff₀ hdown]
  split at h
  · rename_i closed
    rw [Bool.and_eq_true, decide_eq_true_eq, decide_eq_true_eq] at h
    exact ⟨by exact_mod_cast h.1, by exact_mod_cast h.2, .inl closed⟩
  · rw [Bool.and_eq_true, decide_eq_true_eq, decide_eq_true_eq] at h
    have low : ((interval steps).1 : ℚ) * spacingDown spacing <
        (4 * (c * spacingUp spacing) : Nat) := by exact_mod_cast h.1
    have high : ((4 * (c * spacingUp spacing) : Nat) : ℚ) <
        (interval steps).2.1 * spacingDown spacing := by exact_mod_cast h.2
    exact ⟨low.le, high.le, .inr ⟨low, high⟩⟩

/-- What a grid finds is a positive decimal that is rounded to the count of steps. -/
theorem gridPoint?_near {steps count c : Nat} {power : Int}
    (h : gridPoint? steps power count = some c) :
    Near steps (decimalValue c (power - count + 1) * one) ∧ 0 < c := by
  rw [gridPoint?_eq] at h
  rcases choose_eq_some h with ⟨rfl, hin⟩ | ⟨rfl, hin⟩
  · rw [Bool.and_eq_true, bne_iff_ne] at hin
    exact ⟨near_of_isInside hin.1, Nat.pos_of_ne_zero hin.2⟩
  · exact ⟨near_of_isInside hin, Nat.succ_pos _⟩

/-! ## Seventeen digits -/

/-- A point that is not inside lies at one of the ends or past it. -/
theorem outside {steps up down c : Nat} (h : isInside steps up down c = false) :
    4 * (c * up) ≤ (interval steps).1 * down ∨ (interval steps).2.1 * down ≤ 4 * (c * up) := by
  unfold isInside at h
  split at h
  all_goals
    rw [Bool.and_eq_false_iff, decide_eq_false_iff_not, decide_eq_false_iff_not] at h
    omega

/-- A grid of which 10¹⁶ spacings fit below the value has a point inside: the spacing is smaller
than the interval. -/
theorem isInside_of_fine {steps up down : Nat} (rep : IsRepresentable steps) (pos : 0 < steps)
    (hup : 0 < up) (hdown : 0 < down) (fine : 10 ^ 16 * up ≤ steps * down) :
    isInside steps up down (steps * down / up) = true ∨
      isInside steps up down (steps * down / up + 1) = true := by
  by_contra hout
  rw [not_or, Bool.not_eq_true, Bool.not_eq_true] at hout
  have hsplit := Nat.div_add_mod (steps * down) up
  have hrest := Nat.mod_lt (steps * down) hup
  have hplace := Nat.mul_pos (lastPlace_pos steps) hdown
  set c := steps * down / up
  have hc : up * c = c * up := Nat.mul_comm ..
  have hc' : (c + 1) * up = c * up + up := by ring
  have hreach : reachBelow steps ≤ 4 * steps := by
    have := reachBelow_le steps
    have := lastPlace_le rep pos
    omega
  have low : (interval steps).1 * down + reachBelow steps * down = 4 * (steps * down) := by
    rw [interval_eq, ← Nat.add_mul, Nat.sub_add_cancel hreach, Nat.mul_assoc]
  have high : (interval steps).2.1 * down = 4 * (steps * down) + 2 * (lastPlace steps * down) := by
    rw [interval_eq]; ring
  have hlow := outside hout.1
  have hhigh := outside hout.2
  rw [high] at hlow hhigh
  -- neither neighbour is inside, so they are farther apart than the ends of the interval
  have apart : reachBelow steps * down + 2 * (lastPlace steps * down) ≤ 4 * up := by omega
  obtain ⟨k, hk, below, -⟩ := exists_lastPlace steps
  by_cases boundary : lastPlace steps > 1 ∧ steps = lastPlace steps * 2 ^ 52
  · have hwidth : reachBelow steps * down = lastPlace steps * down := by
      rw [reachBelow, if_pos boundary]
    have hvalue : steps * down = 2 ^ 52 * (lastPlace steps * down) :=
      calc steps * down = lastPlace steps * 2 ^ 52 * down := congrArg (· * down) boundary.2
        _ = _ := by ring
    omega
  · have hwidth : reachBelow steps * down = 2 * (lastPlace steps * down) := by
      rw [reachBelow, if_neg boundary]; ring
    have hvalue : steps * down ≤ 2 ^ 53 * (lastPlace steps * down) := by
      rw [hk, ← Nat.mul_assoc, ← pow_add]
      exact Nat.mul_le_mul_right _ below.le
    omega

/-- The estimate of a power of ten from a power of two. -/
def estimate (log : Nat) : Int := ((log : Int) - 1074) * 30103 / 100000

theorem estimate_reaches :
    (List.range 2098).all (fun log => reaches (2 ^ log) (estimate log - 1)) = true := by
  decide +kernel

theorem reaches_mono {m n : Nat} (h : m ≤ n) {e : Int} (hm : reaches m e = true) :
    reaches n e = true := by
  unfold reaches at hm ⊢
  split at hm
  · rename_i he
    rw [if_pos he]
    rw [decide_eq_true_eq] at hm ⊢
    exact hm.trans h
  · rename_i he
    rw [if_neg he]
    rw [decide_eq_true_eq] at hm ⊢
    exact hm.trans (Nat.mul_le_mul_right _ h)

theorem leadingPower_eq (steps : Nat) :
    leadingPower steps =
      if reaches steps (estimate steps.log2 + 1) then estimate steps.log2 + 1
      else if reaches steps (estimate steps.log2) then estimate steps.log2
      else estimate steps.log2 - 1 :=
  rfl

-- the exponent is kept apart, so that no step below computes the power
theorem limit_eq : ∃ k, k = 2098 ∧ limit = 2 ^ k := ⟨_, rfl, by decide +kernel⟩

/-- The leading power is at most the value. -/
theorem reaches_leadingPower {steps : Nat} (pos : 0 < steps) (fits : steps < limit) :
    reaches steps (leadingPower steps) = true := by
  obtain ⟨k, hk, hlimit⟩ := limit_eq
  rw [hlimit] at fits
  have hlog : steps.log2 < k := (Nat.log2_lt pos.ne').mpr fits
  rw [hk] at hlog
  rw [leadingPower_eq]
  split
  · assumption
  split
  · assumption
  · have h := List.all_eq_true.mp estimate_reaches _ (List.mem_range.mpr hlog)
    exact reaches_mono (Nat.log2_self_le pos.ne') h

/-- Of the grid of seventeen digits 10¹⁶ spacings fit below the value. -/
theorem seventeen_fine {steps : Nat} {power : Int} (h : reaches steps power = true) :
    10 ^ 16 * spacingUp (power - (17 : Nat) + 1) ≤
      steps * spacingDown (power - (17 : Nat) + 1) := by
  unfold reaches at h
  unfold spacingUp spacingDown
  by_cases h16 : power - (17 : Nat) + 1 ≥ 0
  · obtain ⟨n, hn⟩ := Int.eq_ofNat_of_zero_le h16
    obtain rfl : power = ((16 + n : Nat) : Int) := by omega
    rw [if_pos (by omega), decide_eq_true_eq, Int.toNat_natCast, Nat.pow_eq, pow_add] at h
    rw [if_pos h16, if_pos h16, hn, Int.toNat_natCast, Nat.pow_eq, Nat.mul_one, ← Nat.mul_assoc]
    exact h
  · obtain ⟨m, hm⟩ : ∃ m : Nat, power - (17 : Nat) + 1 = -(m : Int) :=
      ⟨(-(power - (17 : Nat) + 1)).toNat, by omega⟩
    rw [if_neg h16, if_neg h16, hm, neg_neg, Int.toNat_natCast, Nat.pow_eq]
    by_cases h0 : power ≥ 0
    · obtain ⟨n, rfl⟩ := Int.eq_ofNat_of_zero_le h0
      rw [if_pos h0, decide_eq_true_eq, Int.toNat_natCast, Nat.pow_eq] at h
      have hsum : 16 = n + m := by omega
      calc 10 ^ 16 * one = 10 ^ n * one * 10 ^ m := by rw [hsum, pow_add]; ring
        _ ≤ steps * 10 ^ m := Nat.mul_le_mul_right _ h
    · obtain ⟨n, rfl⟩ : ∃ n : Nat, power = -(n : Int) := ⟨(-power).toNat, by omega⟩
      rw [if_neg h0, decide_eq_true_eq, neg_neg, Int.toNat_natCast, Nat.pow_eq] at h
      have hsum : m = n + 16 := by omega
      calc 10 ^ 16 * one ≤ 10 ^ 16 * (steps * 10 ^ n) := Nat.mul_le_mul_left _ h
        _ = steps * 10 ^ m := by rw [hsum, pow_add]; ring

/-- The grid of seventeen digits has a point inside the interval. -/
theorem seventeen_digits {steps : Nat} (rep : IsRepresentable steps) (pos : 0 < steps)
    {power : Int} (h : reaches steps power = true) :
    gridPoint? steps power 17 ≠ none := by
  intro hnone
  rw [gridPoint?_eq] at hnone
  obtain ⟨hlow, hhigh⟩ := choose_eq_none hnone
  have hup := spacingUp_pos (power - (17 : Nat) + 1)
  have fine := seventeen_fine h
  rcases isInside_of_fine rep pos hup (spacingDown_pos _) fine with hin | hin
  · rw [hin, Bool.true_and, bne_eq_false_iff_eq] at hlow
    have := (Nat.le_div_iff_mul_le hup).mpr fine
    omega
  · rw [hin] at hhigh
    cases hhigh

/-- The first grid with a point inside is found. -/
theorem firstGrid_finds {steps n : Nat} {power : Int} (fuel count : Nat) (h1 : count ≤ n)
    (h2 : n < count + fuel) (h : gridPoint? steps power n ≠ none) :
    gridPoint? steps power (firstGrid steps power fuel count).2 =
      some (firstGrid steps power fuel count).1 := by
  induction fuel generalizing count with
  | zero => omega
  | succ fuel ih =>
    rw [firstGrid]
    cases hc : gridPoint? steps power count with
    | some c => exact hc
    | none =>
      have hne : count ≠ n := by
        rintro rfl
        exact h hc
      exact ih _ (by omega) (by omega)

/-- The decimal that is written for a count of steps is rounded to it. -/
theorem shortest_near {steps : Nat} (rep : IsRepresentable steps) (pos : 0 < steps)
    (fits : steps < limit) :
    ∃ power count c, shortest steps = .ofGrid power count c ∧ 0 < c ∧
      Near steps (decimalValue c (power - count + 1) * one) := by
  have found := firstGrid_finds 17 1 (by omega) (by omega)
    (seventeen_digits rep pos (reaches_leadingPower pos fits))
  obtain ⟨near, hc⟩ := gridPoint?_near found
  exact ⟨_, _, _, rfl, hc, near⟩

end TaskRules.Double
