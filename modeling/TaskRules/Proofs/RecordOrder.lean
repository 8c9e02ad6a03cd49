import TaskRules.Store.Calls

/-!
The order of records. Moments that exist are told apart by the microseconds they stand for, so a
listing, which puts later records first and those of one moment by id downwards, has one order only
for records with different ids.

Proved:
- `daysBeforeYear_succ`, `month_within`: where years begin, and months within them.
- `Date.ordinal_injective`, `Moment.micros_injective`: dates and moments that exist differ in their
  ordinals and in their microseconds.
- `textLe_total`, `textLe_trans`, `points_lt_of_textLe`: texts are ordered by their code points.
- `sorted_newer`: sorted records are strictly in order, the newest first.
-/

namespace TaskRules

/-! ## Dates -/

namespace Date

/-- The days of a year before one of its months. -/
def monthStart (year month : Nat) : Nat := ((monthLengths year).take (month - 1)).foldl Nat.add 0

theorem isLeap_iff (year : Nat) :
    isLeap year = true ↔ year % 4 = 0 ∧ (year % 100 ≠ 0 ∨ year % 400 = 0) := by
  simp [isLeap]

/-- A year has 365 days, or 366. -/
theorem daysBeforeYear_succ {year : Nat} (h : 1 ≤ year) :
    daysBeforeYear (year + 1) = daysBeforeYear year + if isLeap year then 366 else 365 := by
  obtain ⟨n, rfl⟩ : ∃ n, year = n + 1 := ⟨year - 1, by omega⟩
  have fours : (n + 1) / 4 = n / 4 + if (n + 1) % 4 = 0 then 1 else 0 := by split <;> omega
  have hundreds : (n + 1) / 100 = n / 100 + if (n + 1) % 100 = 0 then 1 else 0 := by
    split <;> omega
  have cycles : (n + 1) / 400 = n / 400 + if (n + 1) % 400 = 0 then 1 else 0 := by
    split <;> omega
  have fewer : n / 100 ≤ n / 4 := by omega
  simp only [daysBeforeYear, Nat.add_sub_cancel, isLeap_iff, fours, hundreds, cycles]
  clear fours hundreds cycles
  by_cases h4 : (n + 1) % 4 = 0
  · by_cases h100 : (n + 1) % 100 = 0
    · by_cases h400 : (n + 1) % 400 = 0
      · simp [h4, h100, h400]
        omega
      · simp [h4, h100, h400]
        omega
    · have h400 : ¬ (n + 1) % 400 = 0 := by omega
      simp [h4, h100, h400]
      omega
  · have h100 : ¬ (n + 1) % 100 = 0 := by omega
    have h400 : ¬ (n + 1) % 400 = 0 := by omega
    simp [h4, h100, h400]
    omega

theorem daysBeforeYear_mono {year later : Nat} (positive : 1 ≤ year) (h : year ≤ later) :
    daysBeforeYear year ≤ daysBeforeYear later := by
  induction h with
  | refl => exact Nat.le_refl _
  | @step later h ih =>
    rw [daysBeforeYear_succ (Nat.le_trans positive h)]
    omega

/-- The lengths of the months of a year of one of the two kinds. -/
theorem monthLengths_eq (year : Nat) :
    monthLengths year = monthLengths (if isLeap year then 4 else 1) := by
  unfold monthLengths
  cases isLeap year <;> rfl

/-- A month begins after those before it have ended, and ends with the year at the latest. -/
theorem month_within (year : Nat) {month : Nat} (h : month ≤ 12) :
    (∀ later ≤ 12, month < later →
      monthStart year month + monthLength year month ≤ monthStart year later) ∧
      monthStart year month + monthLength year month ≤ if isLeap year then 366 else 365 := by
  unfold monthStart monthLength
  rw [monthLengths_eq]
  cases isLeap year
  · revert h month
    decide
  · revert h month
    decide

theorem valid_iff (d : Date) : d.valid = true ↔
    1 ≤ d.year ∧ d.year ≤ 9999 ∧ 1 ≤ d.day ∧ d.day ≤ monthLength d.year d.month := by
  simp [valid, and_assoc]

theorem month_le {d : Date} (h : d.valid = true) : d.month ≤ 12 := by
  obtain ⟨-, -, first, last⟩ := (valid_iff d).mp h
  apply Nat.le_of_not_lt
  intro beyond
  have past : (monthLengths d.year).length ≤ d.month - 1 := by
    simp only [monthLengths, List.length_cons, List.length_nil]
    omega
  have none : monthLength d.year d.month = 0 := by
    simp [monthLength, List.getElem?_eq_none past]
  omega

/-- The days of a year lie between it and the next one. -/
theorem ordinal_bounds {d : Date} (h : d.valid = true) :
    daysBeforeYear d.year < d.ordinal ∧ d.ordinal ≤ daysBeforeYear (d.year + 1) := by
  obtain ⟨year, -, first, last⟩ := (valid_iff d).mp h
  obtain ⟨-, inYear⟩ := month_within d.year (month_le h)
  have ordinal : d.ordinal = daysBeforeYear d.year + monthStart d.year d.month + d.day := rfl
  rw [daysBeforeYear_succ year]
  omega

/-- Dates that exist differ in their ordinals. -/
theorem ordinal_injective {a b : Date} (ha : a.valid = true) (hb : b.valid = true)
    (h : a.ordinal = b.ordinal) : a = b := by
  obtain ⟨ya, -, fa, la⟩ := (valid_iff a).mp ha
  obtain ⟨yb, -, fb, lb⟩ := (valid_iff b).mp hb
  have bounds := ordinal_bounds ha
  have bounds' := ordinal_bounds hb
  have year : a.year = b.year := by
    rcases Nat.lt_trichotomy a.year b.year with before | same | after
    · have := daysBeforeYear_mono (Nat.le_add_left 1 a.year) before
      omega
    · exact same
    · have := daysBeforeYear_mono (Nat.le_add_left 1 b.year) after
      omega
  have oa : a.ordinal = daysBeforeYear a.year + monthStart a.year a.month + a.day := rfl
  have ob : b.ordinal = daysBeforeYear b.year + monthStart b.year b.month + b.day := rfl
  rw [year] at oa la
  have month : a.month = b.month := by
    rcases Nat.lt_trichotomy a.month b.month with before | same | after
    · have := (month_within b.year (month_le ha)).1 b.month (month_le hb) before
      omega
    · exact same
    · have := (month_within b.year (month_le hb)).1 a.month (month_le ha) after
      omega
  rw [month] at oa
  have day : a.day = b.day := by omega
  cases a
  cases b
  simp_all

end Date

namespace Moment

/-- A moment that exists. -/
structure Valid (m : Moment) : Prop where
  date : m.date.valid = true
  hour : m.hour < 24
  minute : m.minute < 60
  second : m.second < 60
  micro : m.micro < 1000000

/-- Moments that exist differ in the microseconds they stand for. -/
theorem micros_injective {a b : Moment} (ha : a.Valid) (hb : b.Valid) (h : a.micros = b.micros) :
    a = b := by
  unfold micros at h
  have := ha.hour
  have := ha.minute
  have := ha.second
  have := ha.micro
  have := hb.hour
  have := hb.minute
  have := hb.second
  have := hb.micro
  have date : a.date = b.date := Date.ordinal_injective ha.date hb.date (by omega)
  rw [date] at h
  have hour : a.hour = b.hour := by omega
  have minute : a.minute = b.minute := by omega
  have second : a.second = b.second := by omega
  have micro : a.micro = b.micro := by omega
  cases a
  cases b
  simp_all

end Moment

/-! ## Texts -/

theorem textLe_iff (a b : String) :
    textLe a b = true ↔ ¬ Text.points b.toList < Text.points a.toList := by
  rw [textLe, Text.before, Bool.not_eq_true', decide_eq_false_iff_not]

/-- Of two texts that differ one comes first. -/
theorem points_lt_of_textLe {a b : String} (h : textLe a b = true)
    (differ : Text.points a.toList ≠ Text.points b.toList) :
    Text.points a.toList < Text.points b.toList := by
  rw [textLe_iff] at h
  by_cases lt : Text.points a.toList < Text.points b.toList
  · exact lt
  · exact absurd (List.le_antisymm h lt) differ

theorem textLe_total (a b : String) : textLe a b = true ∨ textLe b a = true := by
  rw [textLe_iff, textLe_iff]
  by_cases back : Text.points b.toList < Text.points a.toList
  · exact .inr fun lt => List.lt_irrefl _ (List.lt_trans back lt)
  · exact .inl back

theorem textLe_trans {a b c : String} (h : textLe a b = true) (h' : textLe b c = true) :
    textLe a c = true := by
  rw [textLe_iff] at *
  exact List.le_trans h h'

/-! ## Records -/

namespace Execution

/-- A record that comes before another one in a listing: it is later, or of the same moment and has
the larger id. -/
def Newer (a b : Execution) : Prop :=
  b.createdAt.micros < a.createdAt.micros ∨
    b.createdAt = a.createdAt ∧ Text.points b.id.toList < Text.points a.id.toList

/-- Records by the microseconds of their moments, the latest first, and then by id downwards. -/
def ranked (a b : Execution) : Bool :=
  if a.createdAt.micros = b.createdAt.micros then textLe b.id a.id
  else decide (b.createdAt.micros ≤ a.createdAt.micros)

theorem ranked_total (a b : Execution) : (ranked a b || ranked b a) = true := by
  rw [Bool.or_eq_true]
  unfold ranked
  by_cases same : a.createdAt.micros = b.createdAt.micros
  · simp only [same, if_true]
    exact textLe_total b.id a.id
  · simp only [same, Ne.symm same, if_false, decide_eq_true_eq]
    omega

theorem ranked_trans (a b c : Execution) (h : ranked a b = true) (h' : ranked b c = true) :
    ranked a c = true := by
  unfold ranked at *
  by_cases first : a.createdAt.micros = b.createdAt.micros
  · by_cases second : b.createdAt.micros = c.createdAt.micros
    · simp only [first, second, if_true] at h h' ⊢
      exact textLe_trans h' h
    · simp only [first, second, if_false] at h' ⊢
      exact h'
  · by_cases second : b.createdAt.micros = c.createdAt.micros
    · simp only [← second, first, if_false] at h ⊢
      exact h
    · simp only [first, second, if_false, decide_eq_true_eq] at h h'
      have third : a.createdAt.micros ≠ c.createdAt.micros := by omega
      simp only [third, if_false, decide_eq_true_eq]
      omega

end Execution

namespace Store
open Execution

/-- Records of moments that exist are compared by microseconds. -/
theorem recordedAfter_eq {a b : Execution} (ha : a.createdAt.Valid) (hb : b.createdAt.Valid) :
    recordedAfter a b = a.ranked b := by
  unfold recordedAfter ranked
  by_cases same : a.createdAt = b.createdAt
  · simp only [same, if_true]
  · have apart : a.createdAt.micros ≠ b.createdAt.micros := fun h =>
      same (Moment.micros_injective ha hb h)
    simp only [same, apart, if_false]
    rfl

/-- Sorted records with moments that exist and ids of their own are strictly in order. -/
theorem sorted_newer {rows : List Execution} (times : ∀ e ∈ rows, e.createdAt.Valid)
    (keys : (rows.map fun e => Text.points e.id.toList).Nodup) :
    (rows.mergeSort recordedAfter).Pairwise Newer := by
  have ranks : rows.mergeSort recordedAfter = rows.mergeSort ranked := by
    have := List.map_mergeSort (r := recordedAfter) (s := ranked) (f := id) (l := rows)
      fun a ha b hb => recordedAfter_eq (times a ha) (times b hb)
    simpa using this
  rw [ranks]
  have sorted := List.pairwise_mergeSort ranked_trans ranked_total rows
  have perm := List.mergeSort_perm rows ranked
  have apart : (rows.mergeSort ranked).Pairwise fun a b =>
      Text.points a.id.toList ≠ Text.points b.id.toList := by
    have nodup := (perm.map fun e => Text.points e.id.toList).nodup_iff.mpr keys
    exact List.pairwise_map.mp nodup
  refine (sorted.and apart).imp_of_mem fun {a b} ha hb ⟨rank, differ⟩ => ?_
  unfold ranked at rank
  by_cases same : a.createdAt.micros = b.createdAt.micros
  · have moment := Moment.micros_injective (times a (perm.mem_iff.mp ha))
      (times b (perm.mem_iff.mp hb)) same
    rw [if_pos same] at rank
    exact .inr ⟨moment.symm, points_lt_of_textLe rank differ.symm⟩
  · rw [if_neg same, decide_eq_true_eq] at rank
    exact .inl (by omega)

end Store
end TaskRules
