import TaskRules.Action.Config
import TaskRules.Proofs.CalendarDates
import TaskRules.Proofs.CheckedForms
import TaskRules.Proofs.JsonReading
import TaskRules.Proofs.WholeNumbers

/-!
What reading a timestamp gives. Whichever form a value has, a full timestamp, a number or a bare
date, the wall clock that is read exists, and a number is read as the instant so many seconds after
1970, or milliseconds beyond the watershed.

Proved:
- `readDate_ok`, `readTime?_some`: a date and a time of day that are read are in their ranges.
- `ofUnix_ok`, `ofWhole_ok`: a number is read as its instant, in UTC.
- `ofText_valid`, `timestamp_valid`, `ofTen?_valid`: every wall clock that is read exists.
- `whenCheck_valid`: and so does that of every date-valued setting.
- `IsUnix.exists_ofWhole`, `whenCheck_whole`: a whole number on a date that exists is read.
-/

namespace TaskRules

namespace Timestamp

/-! ## Digits -/

theorem digit?_lt {c : Char} {d : Nat} (h : digit? c = some d) : d < 10 := by
  unfold digit? at h
  split at h
  · rename_i digit
    cases h
    rcases Json.digit_cases digit with
      rfl | rfl | rfl | rfl | rfl | rfl | rfl | rfl | rfl | rfl <;> decide
  · cases h

theorem two?_lt {a b : Char} {n : Nat} (h : two? a b = some n) : n < 100 := by
  unfold two? at h
  obtain ⟨high, first, h⟩ := Option.bind_eq_some_iff.mp h
  obtain ⟨low, second, h⟩ := Option.bind_eq_some_iff.mp h
  cases h
  have := digit?_lt first
  have := digit?_lt second
  omega

theorem fractionMicros_lt {digits : List Char} (h : Json.AreDigits digits) :
    fractionMicros digits < 1000000 := by
  have six : ((digits ++ List.replicate 6 '0').take 6).length = 6 := by simp
  have all : Json.AreDigits ((digits ++ List.replicate 6 '0').take 6) := by
    intro c hc
    rcases List.mem_append.mp (List.mem_of_mem_take hc) with given | zero
    · exact h c given
    · rw [List.eq_of_mem_replicate zero]
      decide
  have bound := Json.natOf_lt all
  rw [six] at bound
  exact bound

/-! ## Full timestamps -/

/-- A date that is read has a month and a day; its year may be 0. -/
theorem readDate_ok {cs rest : List Char} {d : Date} (h : readDate cs = .ok (d, rest)) :
    d.year ≤ 9999 ∧ 1 ≤ d.day ∧ d.day ≤ Date.monthLength d.year d.month := by
  unfold readDate at h
  repeat' first | split at h | dsimp only at h
  any_goals cases h
  rename_i high low first second _ _ _ _ month _ _ _ _ _ day _ months days _
  have := two?_lt first
  have := two?_lt second
  dsimp only
  omega

/-- Seconds and microseconds that are read are in their ranges. -/
theorem readSeconds?_some {cs rest : List Char} {second micro : Nat}
    (h : readSeconds? cs = some (second, micro, rest)) : second < 60 ∧ micro < 1000000 := by
  unfold readSeconds? at h
  split at h
  · obtain ⟨n, -, h⟩ := Option.bind_eq_some_iff.mp h
    split at h
    · cases h
    · rename_i bound
      have seconds : n < 60 := by omega
      repeat' first | split at h | dsimp only at h
      any_goals cases h
      · exact ⟨seconds, fractionMicros_lt (Json.takeWhile_areDigits _)⟩
      · exact ⟨seconds, by decide⟩
      · exact ⟨seconds, by decide⟩
  · cases h
  · cases h
    decide

/-- A time of day that is read is one, and comes after the date. -/
theorem readTime?_some {d : Date} {cs : List Char} {t : Timestamp} (h : readTime? d cs = some t) :
    t.wall.date = d ∧ t.wall.hour < 24 ∧ t.wall.minute < 60 ∧ t.wall.second < 60 ∧
      t.wall.micro < 1000000 := by
  unfold readTime? at h
  split at h
  · split at h
    · cases h
    obtain ⟨hour, -, h⟩ := Option.bind_eq_some_iff.mp h
    obtain ⟨minute, -, h⟩ := Option.bind_eq_some_iff.mp h
    obtain ⟨⟨second, micro, rest⟩, seconds, h⟩ := Option.bind_eq_some_iff.mp h
    obtain ⟨ahead, -, h⟩ := Option.bind_eq_some_iff.mp h
    obtain ⟨inMinute, inSecond⟩ := readSeconds?_some seconds
    split at h
    · cases h
    · cases h
      exact ⟨rfl, by dsimp only; omega, by dsimp only; omega, inMinute, inSecond⟩
  · cases h

/-! ## Numbers -/

/-- A number is read as its instant, in UTC. -/
theorem ofUnix_ok {seconds : Int} {micro : Nat} {t : Timestamp} (h : ofUnix seconds micro = .ok t) :
    t.wall.Valid ∧ t.ahead = some 0 ∧
      t.instant? = some ((seconds + epoch) * 1000000 + micro) := by
  unfold ofUnix at h
  dsimp only at h
  split at h
  · cases h
  split at h
  · cases h
  split at h
  · cases h
  cases h
  unfold epoch at *
  obtain ⟨valid, micros⟩ := Moment.ofMicros_spec
    (n := (seconds + micro / 1000000 + 719163 * 86400).toNat * 1000000 + micro % 1000000)
    (by omega) (by unfold Date.lastOrdinal; omega)
  refine ⟨valid, rfl, ?_⟩
  simp only [instant?, Option.map_some, micros, Option.some.injEq]
  omega

/-- The instant of a whole number: so many seconds after 1970, or milliseconds beyond the
watershed. -/
def unixMicros (n : Int) : Int :=
  epoch * 1000000 + n * if n.natAbs ≤ watershed then 1000000 else 1000

/-- A whole number is read as its instant, in UTC. -/
theorem ofWhole_ok {n : Int} {t : Timestamp} (h : ofWhole n 0 = .ok t) :
    t.wall.Valid ∧ t.ahead = some 0 ∧ t.instant? = some (unixMicros n) := by
  unfold unixMicros
  unfold ofWhole at h
  split at h
  · rename_i few
    obtain ⟨valid, ahead, instant⟩ := ofUnix_ok h
    refine ⟨valid, ahead, ?_⟩
    rw [instant, if_pos few]
    congr 1
    omega
  · rename_i many
    obtain ⟨valid, ahead, instant⟩ := ofUnix_ok h
    refine ⟨valid, ahead, ?_⟩
    have split := Int.mul_fdiv_add_fmod n 1000
    have positive := Int.fmod_nonneg_of_pos n (show (0 : Int) < 1000 by decide)
    rw [instant, if_neg many]
    congr 1
    omega

theorem ofDouble_valid {x : Double} {t : Timestamp} (h : ofDouble x = .ok t) :
    t.wall.Valid ∧ t.ahead = some 0 := by
  unfold ofDouble at h
  repeat' first | split at h | dsimp only at h
  any_goals cases h
  all_goals
    obtain ⟨valid, ahead, -⟩ := ofUnix_ok h
    exact ⟨valid, ahead⟩

/-! ## Texts -/

/-- Midnight of a date that exists is a moment that exists. -/
theorem midnight_valid {d : Date} (h : d.valid = true) : (Moment.midnight d).Valid :=
  ⟨h, Nat.zero_lt_succ _, Nat.zero_lt_succ _, Nat.zero_lt_succ _, Nat.zero_lt_succ _⟩

/-- A full timestamp that is read exists, unless it is of year 0. -/
theorem full_valid {cs rest : List Char} {d : Date} {t : Timestamp}
    (date : readDate cs = .ok (d, rest)) (time : readTime? d rest = some t)
    (h : t.wall.date.year ≠ 0) : t.wall.Valid := by
  obtain ⟨sameDate, hour, minute, second, micro⟩ := readTime?_some time
  obtain ⟨year, first, last⟩ := readDate_ok date
  rw [sameDate] at h
  refine ⟨?_, hour, minute, second, micro⟩
  rw [sameDate]
  exact (Date.valid_iff d).mpr ⟨by omega, year, first, last⟩

/-- The wall clock that a text is read as exists. -/
theorem ofText_valid {cs : List Char} {t : Timestamp} (h : ofText cs = .ok t) : t.wall.Valid := by
  unfold ofText at h
  dsimp only at h
  split at h
  · rename_i full
    split at full
    · rename_i date
      split at h
      · cases h
      · rename_i positive
        cases h
        exact full_valid date full positive
    · cases full
  · split at h
    · rename_i number
      cases h
      split at number
      · rename_i n _
        exact (ofWhole_ok (Option.some.inj number)).1
      · rename_i x _
        exact (ofDouble_valid (Option.some.inj number)).1
      · cases number
    · cases h
    · split at h
      · rename_i d date
        split at h
        · cases h
        · rename_i positive
          cases h
          obtain ⟨year, first, last⟩ := readDate_ok date
          exact midnight_valid ((Date.valid_iff d).mpr ⟨by omega, year, first, last⟩)
      · cases h

end Timestamp

/-- The date of a weekday of an ISO week exists. -/
theorem Date.ofWeek?_valid {year week weekday : Nat} {d : Date}
    (h : Date.ofWeek? year week weekday = some d) : d.valid = true := by
  unfold ofWeek? at h
  obtain ⟨n, ordinal, h⟩ := Option.bind_eq_some_iff.mp h
  split at h
  · rename_i last
    cases h
    unfold weekOrdinal? at ordinal
    dsimp only at ordinal
    split at ordinal
    · cases ordinal
    · rename_i shape
      refine (ofOrdinal_spec ?_ last).1
      rw [← Option.some.inj ordinal]
      -- the first year begins on a Monday, so no week begins before it
      have start : year = 1 ∨ 365 ≤ daysBeforeYear year := by
        rcases Nat.lt_or_ge year 2 with first | later
        · omega
        · exact .inr (daysBeforeYear_mono (by decide) later)
      rcases start with rfl | far
      · have monday : (daysBeforeYear 1 + 1 + 6) % 7 = 0 := by decide
        rw [monday]
        split <;> omega
      · split <;> omega
  · cases h

/-- A bare date of ten characters exists. -/
theorem Date.ofTen?_valid {cs : List Char} {d : Date} (h : Date.ofTen? cs = some d) :
    d.valid = true := by
  unfold ofTen? at h
  split at h
  · cases h
  split at h
  · obtain ⟨high, -, h⟩ := Option.bind_eq_some_iff.mp h
    obtain ⟨low, -, h⟩ := Option.bind_eq_some_iff.mp h
    dsimp only at h
    split at h
    · obtain ⟨week, -, h⟩ := Option.bind_eq_some_iff.mp h
      obtain ⟨weekday, -, h⟩ := Option.bind_eq_some_iff.mp h
      exact ofWeek?_valid h
    · obtain ⟨week, -, h⟩ := Option.bind_eq_some_iff.mp h
      obtain ⟨weekday, -, h⟩ := Option.bind_eq_some_iff.mp h
      exact ofWeek?_valid h
    · obtain ⟨month, -, h⟩ := Option.bind_eq_some_iff.mp h
      obtain ⟨day, -, h⟩ := Option.bind_eq_some_iff.mp h
      split at h
      · rename_i valid
        cases h
        exact valid
      · cases h
    · obtain ⟨month, -, h⟩ := Option.bind_eq_some_iff.mp h
      obtain ⟨day, -, h⟩ := Option.bind_eq_some_iff.mp h
      split at h
      · rename_i valid
        cases h
        exact valid
      · cases h
    · cases h
  · cases h

/-- The wall clock that a value is read as exists. -/
theorem Schema.timestamp_valid {v : Json} {t : Timestamp} (h : Schema.timestamp v = .ok t) :
    t.wall.Valid := by
  -- which double a whole number is does not matter here, and is nothing to compute
  obtain ⟨nearest, rounding⟩ : ∃ f, f = Double.ofInt := ⟨_, rfl⟩
  rw [timestamp.eq_def, ← rounding] at h
  split at h
  · obtain ⟨s, -, h⟩ := also_ok h
    split at h
    · rename_i read
      cases h
      exact Timestamp.ofText_valid read
    · cases h
    · cases h
  · split at h
    · cases h
    split at h
    · rename_i read
      cases h
      exact (Timestamp.ofWhole_ok read).1
    · cases h
  · split at h
    · rename_i read
      cases h
      exact (Timestamp.ofDouble_valid read).1
    · cases h
  · cases h

/-- The wall clock of a date-valued setting exists. -/
theorem Action.whenCheck_valid {v : Json} {t : Timestamp} (h : Action.whenCheck v = .ok t) :
    t.wall.Valid := by
  unfold whenCheck at h
  split at h
  · rename_i parsed
    cases h
    unfold parseWhen at parsed
    repeat' first | split at parsed | dsimp only at parsed
    any_goals cases parsed
    rename_i read
    exact Timestamp.midnight_valid (Date.ofTen?_valid read)
  · exact Schema.timestamp_valid h

namespace Timestamp

/-- A whole number whose instant is on a date that exists. -/
structure IsUnix (n : Int) : Prop where
  first : 86400000000 ≤ unixMicros n
  last : unixMicros n < (Date.lastOrdinal + 1) * 86400000000

namespace IsUnix
variable {n : Int}

theorem small (h : IsUnix n) : n.natAbs ≤ 2 ^ 53 := by
  obtain ⟨first, last⟩ := h
  unfold unixMicros epoch at *
  unfold Date.lastOrdinal at last
  by_cases few : n.natAbs ≤ watershed
  · unfold watershed at few
    omega
  · rw [if_neg few] at first last
    omega

theorem exists_ofWhole (h : IsUnix n) : ∃ t, ofWhole n 0 = .ok t := by
  obtain ⟨first, last⟩ := h
  unfold unixMicros epoch at *
  unfold Date.lastOrdinal at last
  unfold ofWhole
  by_cases few : n.natAbs ≤ watershed
  · rw [if_pos few] at *
    unfold ofUnix epoch
    dsimp only
    rw [if_neg (by omega), if_neg (by omega), if_neg (by omega)]
    exact ⟨_, rfl⟩
  · rw [if_neg few] at *
    have split := Int.mul_fdiv_add_fmod n 1000
    have positive := Int.fmod_nonneg_of_pos n (show (0 : Int) < 1000 by decide)
    have less := Int.fmod_lt_of_pos n (show (0 : Int) < 1000 by decide)
    unfold ofUnix epoch
    dsimp only
    rw [if_neg (by omega), if_neg (by omega), if_neg (by omega)]
    exact ⟨_, rfl⟩

end IsUnix
end Timestamp

/-- A date-valued setting that is a whole number is read as that number is. -/
theorem Action.whenCheck_whole {n : Int} (small : n.natAbs ≤ 2 ^ 53) {t : Timestamp}
    (read : Timestamp.ofWhole n 0 = .ok t) : whenCheck (.int n) = .ok t := by
  obtain ⟨negative, steps, finite⟩ := Double.ofInt_finite small
  obtain ⟨nearest, rounding⟩ : ∃ f, f = Double.ofInt := ⟨_, rfl⟩
  show Schema.timestamp (.int n) = .ok t
  rw [← rounding] at finite
  rw [Schema.timestamp.eq_def, ← rounding]
  dsimp only
  rw [finite, read]

end TaskRules
