import TaskRules.Proofs.RecordOrder

/-!
The dates of ordinals. The year of an ordinal is found through cycles of 400, 100, 4 and 1 years, of
which the last of a longer cycle may be a day longer; the month by taking away the lengths of those
before.

Proved:
- `daysBeforeYear_of_cycles`, `isLeap_of_cycles`: where the year begins that the cycles give, and
  when it is leap.
- `ofOrdinal_cycles`: how the days up to an ordinal fall into the cycles.
- `monthLength_le`: how long a month can be.
- `splitDay_spec`: the month and the day of the month that a day of a year is.
- `ofOrdinal_spec`: every ordinal up to the last is that of its date, which exists.
- `Moment.ofMicros_spec`: every count of microseconds up to the end of the last date is that of its
  moment, which exists.
-/

namespace TaskRules

namespace Date

/-- The days before a year that is told by its cycles. -/
theorem daysBeforeYear_of_cycles {n400 n100 n4 n1 : Nat} (h100 : n100 ≤ 3) (h4 : n4 ≤ 24)
    (h1 : n1 ≤ 3) :
    daysBeforeYear (n400 * 400 + n100 * 100 + n4 * 4 + n1 + 1) =
      n400 * 146097 + n100 * 36524 + n4 * 1461 + n1 * 365 := by
  have fours : (n400 * 400 + n100 * 100 + n4 * 4 + n1) / 4 = n400 * 100 + n100 * 25 + n4 := by omega
  have hundreds : (n400 * 400 + n100 * 100 + n4 * 4 + n1) / 100 = n400 * 4 + n100 := by omega
  have cycles : (n400 * 400 + n100 * 100 + n4 * 4 + n1) / 400 = n400 := by omega
  simp only [daysBeforeYear, Nat.add_sub_cancel, fours, hundreds, cycles]
  omega

/-- The last of four years is leap, unless it is the last of one of the first three hundreds. -/
theorem isLeap_of_cycles {n400 n100 n4 : Nat} (h4 : n4 ≤ 24) (last : n4 = 24 → n100 = 3) :
    isLeap (n400 * 400 + n100 * 100 + n4 * 4 + 3 + 1) = true := by
  rw [isLeap_iff]
  omega

theorem monthLength_eq (year month : Nat) :
    monthLength year month = monthLength (if isLeap year then 4 else 1) month := by
  unfold monthLength
  rw [monthLengths_eq year]

theorem monthLength_le (year : Nat) {month : Nat} (h : month ≤ 12) :
    monthLength year month ≤ 31 := by
  rw [monthLength_eq]
  cases isLeap year
  · revert h month
    decide
  · revert h month
    decide

theorem monthStart_eq (year month : Nat) :
    monthStart year month = monthStart (if isLeap year then 4 else 1) month := by
  unfold monthStart
  rw [monthLengths_eq year]

/-- A day of a year, counted from 0, is a day of one of its months. -/
theorem splitDay_spec (year : Nat) {day : Nat} (h : day < if isLeap year then 366 else 365) :
    ∃ month first, splitDay 1 (monthLengths year) day = (month, first) ∧ 1 ≤ first ∧
      first ≤ monthLength year month ∧ monthStart year month + first = day + 1 := by
  have both : ∀ leap : Bool, ∀ day < if leap then 366 else 365,
      let split := splitDay 1 (monthLengths (if leap then 4 else 1)) day
      1 ≤ split.2 ∧ split.2 ≤ monthLength (if leap then 4 else 1) split.1 ∧
        monthStart (if leap then 4 else 1) split.1 + split.2 = day + 1 := by
    decide +kernel
  have inMonth := both (isLeap year) day h
  rw [← monthLengths_eq] at inMonth
  rcases split : splitDay 1 (monthLengths year) day with ⟨month, first⟩
  rw [split] at inMonth
  dsimp only at inMonth
  rw [← monthLength_eq, ← monthStart_eq] at inMonth
  exact ⟨month, first, rfl, inMonth⟩

/-- How the days since the first date fall into cycles of 400, 100, 4 and 1 years. The last of the
hundreds and the last of the single years may be a day longer. -/
theorem ofOrdinal_cycles (n : Nat) : ∃ n400 n100 n4 n1 day,
    ofOrdinal (n + 1) = (let year := n400 * 400 + n100 * 100 + n4 * 4 + n1 + 1
      let (month, first) := splitDay 1 (monthLengths year) day
      ⟨year, month, first⟩) ∧
    n = n400 * 146097 + n100 * 36524 + n4 * 1461 + n1 * 365 + day ∧
    n100 ≤ 3 ∧ n4 ≤ 24 ∧ n1 ≤ 3 ∧ (day < 365 ∨ day = 365 ∧ n1 = 3 ∧ (n4 = 24 → n100 = 3)) := by
  refine ⟨_, _, _, _, _, rfl, ?_⟩
  rw [Nat.add_sub_cancel]
  have cycles := Nat.div_add_mod n 146097
  have less400 := Nat.mod_lt n (show 146097 > 0 by decide)
  generalize n % 146097 = r at *
  generalize n / 146097 = n400 at *
  obtain ⟨n100, h100⟩ : ∃ k, min (r / 36524) 3 = k := ⟨_, rfl⟩
  have hundreds : n100 ≤ 3 ∧ n100 * 36524 ≤ r ∧ r ≤ n100 * 36524 + 36524 ∧
      (r = n100 * 36524 + 36524 → n100 = 3) := by omega
  rw [h100]
  obtain ⟨less100, fits100, left100, longer⟩ := hundreds
  generalize hr' : r - n100 * 36524 = r'
  have fours := Nat.div_add_mod r' 1461
  have less4 := Nat.mod_lt r' (show 1461 > 0 by decide)
  generalize r' % 1461 = r'' at *
  generalize r' / 1461 = n4 at *
  obtain ⟨n1, h1⟩ : ∃ k, min (r'' / 365) 3 = k := ⟨_, rfl⟩
  have singles : n1 ≤ 3 ∧ n1 * 365 ≤ r'' ∧ r'' ≤ n1 * 365 + 365 ∧
      (r'' = n1 * 365 + 365 → n1 = 3) := by omega
  rw [h1]
  obtain ⟨less1, fits1, left1, longer1⟩ := singles
  clear h100 h1
  omega

/-- Every ordinal up to the last is that of its date, which exists. -/
theorem ofOrdinal_spec {n : Nat} (first : 1 ≤ n) (last : n ≤ lastOrdinal) :
    (ofOrdinal n).valid = true ∧ (ofOrdinal n).ordinal = n := by
  unfold lastOrdinal at last
  obtain ⟨days, rfl⟩ : ∃ days, n = days + 1 := ⟨n - 1, by omega⟩
  obtain ⟨n400, n100, n4, n1, day, date, sum, few100, few4, few1, left⟩ := ofOrdinal_cycles days
  have start : daysBeforeYear (n400 * 400 + n100 * 100 + n4 * 4 + n1 + 1) =
      n400 * 146097 + n100 * 36524 + n4 * 1461 + n1 * 365 :=
    daysBeforeYear_of_cycles few100 few4 few1
  obtain ⟨year, hyear⟩ : ∃ year, n400 * 400 + n100 * 100 + n4 * 4 + n1 + 1 = year := ⟨_, rfl⟩
  rw [hyear] at start
  dsimp only at date
  rw [hyear] at date
  have inYear : day < if isLeap year then 366 else 365 := by
    rcases left with short | ⟨rfl, rfl, longer⟩
    · split <;> omega
    · rw [← hyear, isLeap_of_cycles few4 longer]
      decide
  obtain ⟨month, d, split, positive, within, rest⟩ := splitDay_spec year inYear
  rw [split] at date
  dsimp only at date
  rw [date]
  have ordinal : (⟨year, month, d⟩ : Date).ordinal =
      daysBeforeYear year + monthStart year month + d := rfl
  refine ⟨(valid_iff _).mpr ⟨?_, ?_, positive, within⟩, by omega⟩
  · show 1 ≤ year
    omega
  · show year ≤ 9999
    omega

end Date

/-- Every count of microseconds from the first date to the end of the last is that of its moment,
which exists. -/
theorem Moment.ofMicros_spec {n : Nat} (first : 86400000000 ≤ n)
    (last : n < (Date.lastOrdinal + 1) * 86400000000) :
    (Moment.ofMicros n).Valid ∧ (Moment.ofMicros n).micros = n := by
  unfold Date.lastOrdinal at last
  obtain ⟨valid, ordinal⟩ := Date.ofOrdinal_spec (n := n / 1000000 / 60 / 60 / 24) (by omega)
    (by unfold Date.lastOrdinal; omega)
  refine ⟨⟨valid, ?_, ?_, ?_, ?_⟩, ?_⟩
  · exact Nat.mod_lt _ (by decide)
  · exact Nat.mod_lt _ (by decide)
  · exact Nat.mod_lt _ (by decide)
  · exact Nat.mod_lt _ (by decide)
  · simp only [Moment.micros, Moment.ofMicros, ordinal]
    omega

end TaskRules
