import TaskRules.Proofs.Numerals
import TaskRules.Proofs.TimeReadings
import TaskRules.Proofs.Words

/-!
Timestamps, written and read back. The ISO text of a timestamp has fields of fixed widths, so each
is read from its own digits; the distance from UTC is written as hours and minutes, or `Z` for UTC
itself. A text of digits alone is a number.

Proved:
- `natOf_padded`, `exists_two`, `exists_four`: the fields are read from their digits.
- `IsTimeText.size`, `IsTimeText.trim`, `IsTimeText.length_le_utf8`: their characters are plain.
- `readDate_chars`, `readSeconds?_written`, `readTime?_written`: the date and the time of day.
- `zone_none`, `zone_utc`, `zone_ahead`: the distance from UTC.
- `ofText_written`: a timestamp is read from its text; `iso_injective`: so no two moments share one.
- `ofText_decimal`: the numeral of a number is read as the number.
- `whenCheck_iso`, `whenCheck_decimal`: what a date-valued setting with such a text is read as.
-/

namespace TaskRules

open Json (AreDigits EndsDigits natOf)

/-! ## Fields -/

theorem natOf_padded (width n : Nat) : natOf (padded width n) = n := by
  rw [padded, Json.natOf_append, Json.natOf_zeros, Json.natOf_toDigits, Nat.zero_mul, Nat.zero_add]

theorem padded_areDigits (width n : Nat) : AreDigits (padded width n) := by
  intro c hc
  rcases List.mem_append.mp hc with zero | digit
  · rw [List.eq_of_mem_replicate zero]
    decide
  · exact Json.toDigits_areDigits n c digit

theorem length_padded (width : Nat) {n : Nat} (positive : 0 < width) (h : n < 10 ^ width) :
    (padded width n).length = width := by
  have short := (Nat.length_toDigits_le_iff (by decide) positive).mpr h
  rw [padded, List.length_append, List.length_replicate]
  omega

namespace Timestamp

theorem digit?_eq {c : Char} (h : Json.isAsciiDigit c = true) : digit? c = some (natOf [c]) := by
  rcases Json.digit_cases h with
    rfl | rfl | rfl | rfl | rfl | rfl | rfl | rfl | rfl | rfl <;> rfl

theorem two?_eq {a b : Char} (ha : Json.isAsciiDigit a = true) (hb : Json.isAsciiDigit b = true) :
    two? a b = some (natOf [a, b]) := by
  have both : natOf ([a] ++ [b]) = natOf [a] * 10 ^ 1 + natOf [b] := Json.natOf_append [a] [b]
  rw [two?, digit?_eq ha, digit?_eq hb]
  exact congrArg some both.symm

/-- A field of two digits. -/
theorem exists_two {n : Nat} (h : n < 100) :
    ∃ a b, padded 2 n = [a, b] ∧ two? a b = some n := by
  obtain ⟨a, b, same⟩ := List.length_eq_two.mp (length_padded 2 (by decide) h)
  have digits := padded_areDigits 2 n
  have value := natOf_padded 2 n
  rw [same] at digits value
  refine ⟨a, b, same, ?_⟩
  rw [two?_eq (digits a (by simp)) (digits b (by simp)), value]

/-- A field of four digits is read as two of two. -/
theorem exists_four {n : Nat} (h : n < 10000) :
    ∃ a b c d high low, padded 4 n = [a, b, c, d] ∧ two? a b = some high ∧ two? c d = some low ∧
      high * 100 + low = n := by
  have length := length_padded 4 (by decide) h
  obtain ⟨a, b, c, d, same⟩ : ∃ a b c d, padded 4 n = [a, b, c, d] := by
    match padded 4 n, length with
    | [a, b, c, d], _ => exact ⟨a, b, c, d, rfl⟩
  have digits := padded_areDigits 4 n
  have value := natOf_padded 4 n
  rw [same] at digits value
  have halves : natOf ([a, b] ++ [c, d]) = natOf [a, b] * 10 ^ 2 + natOf [c, d] :=
    Json.natOf_append [a, b] [c, d]
  refine ⟨a, b, c, d, _, _, same, two?_eq (digits a (by simp)) (digits b (by simp)),
    two?_eq (digits c (by simp)) (digits d (by simp)), ?_⟩
  exact halves.symm.trans value

end Timestamp

/-! ## The characters of a text -/

/-- The characters that a timestamp is written with. -/
def timeMarks : List Char :=
  ['0', '1', '2', '3', '4', '5', '6', '7', '8', '9', '-', 'T', ':', '.', '+', 'Z']

/-- A text of such characters. -/
def IsTimeText (cs : List Char) : Prop := ∀ c ∈ cs, c ∈ timeMarks

namespace IsTimeText
variable {cs ds : List Char}

theorem append (h : IsTimeText cs) (h' : IsTimeText ds) : IsTimeText (cs ++ ds) := by
  intro c hc
  rcases List.mem_append.mp hc with first | second
  · exact h c first
  · exact h' c second

theorem cons {c : Char} (hc : c ∈ timeMarks) (h : IsTimeText cs) : IsTimeText (c :: cs) :=
  List.forall_mem_cons.mpr ⟨hc, h⟩

theorem ofDigits (h : AreDigits cs) : IsTimeText cs := by
  intro c hc
  rcases Json.digit_cases (h c hc) with
    rfl | rfl | rfl | rfl | rfl | rfl | rfl | rfl | rfl | rfl <;> decide

theorem padded (width n : Nat) : IsTimeText (padded width n) := .ofDigits (padded_areDigits width n)

/-- Each is a code point by itself. -/
theorem small (h : IsTimeText cs) : ∀ c ∈ cs, c.toNat < Text.firstTrail := by
  have all : timeMarks.all (fun c => decide (c.toNat < Text.firstTrail)) = true := by decide
  exact fun c hc => of_decide_eq_true (List.all_eq_true.mp all c (h c hc))

theorem size (h : IsTimeText cs) : Text.size cs = cs.length := by
  rw [Text.size, Text.points_small h.small, List.length_map]

theorem whole (h : IsTimeText cs) : Text.isWhole cs = true := by
  rw [Text.isWhole, Text.points_small h.small, List.all_map, List.all_eq_true]
  intro c _
  simp [Text.isHalf_toNat]

/-- There are no blanks among them. -/
theorem trim (h : IsTimeText cs) : Text.trim cs = cs := by
  have all : timeMarks.all (!Text.isBlank ·) = true := by decide
  have none : ∀ c ∈ ([] : List Char), Text.isBlank c = true := fun c hc => nomatch hc
  have visible : ∀ c ∈ cs, Text.isBlank c = false := by
    intro c hc
    rw [← Bool.not_eq_true']
    exact List.all_eq_true.mp all c (h c hc)
  have trimmed := Text.trim_around none visible none
  rwa [List.nil_append, List.append_nil] at trimmed

theorem length_bytes (bytes : ByteArray) : bytes.toList.length = bytes.size := by
  have loop : ∀ left i r, left = bytes.size - i →
      (ByteArray.toList.loop bytes i r).length = r.length + left := by
    intro left
    induction left with
    | zero =>
      intro i r last
      rw [ByteArray.toList.loop, if_neg (by omega), List.length_reverse, Nat.add_zero]
    | succ left ih =>
      intro i r more
      rw [ByteArray.toList.loop, if_pos (by omega), ih _ _ (by omega), List.length_cons]
      omega
  exact (loop _ 0 [] rfl).trans (Nat.zero_add _)

/-- It has at least as many bytes as characters. -/
theorem length_le_utf8 (h : IsTimeText cs) : cs.length ≤ (Text.utf8 cs).length := by
  have same : cs.map (Char.ofNat ∘ Char.toNat) = cs :=
    (List.map_congr_left fun c _ => Char.ofNat_toNat c).trans (List.map_id cs)
  rw [Text.utf8, Text.points_small h.small, List.map_map, same, length_bytes]
  show cs.length ≤ (String.ofList cs).toByteArray.size
  rw [String.toByteArray_ofList]
  clear h same
  induction cs with
  | nil => exact Nat.zero_le _
  | cons c rest ih =>
    have positive := c.utf8Size_pos
    rw [List.utf8Encode_cons, ByteArray.size_append, List.utf8Encode_singleton,
      List.size_toByteArray, String.length_utf8EncodeChar, List.length_cons]
    omega

end IsTimeText

theorem Date.isTimeText (d : Date) : IsTimeText d.chars :=
  (IsTimeText.padded 4 _).append <| .cons (by decide) <|
    (IsTimeText.padded 2 _).append <| .cons (by decide) (.padded 2 _)

theorem Moment.isTimeText (m : Moment) : IsTimeText (m.charsWith 'T') := by
  refine .append (m.date.isTimeText.append <| .cons (by decide) <|
    (IsTimeText.padded 2 _).append <| .cons (by decide) <|
      (IsTimeText.padded 2 _).append <| .cons (by decide) (.padded 2 _)) ?_
  split
  · exact fun c hc => nomatch hc
  · exact .cons (by decide) (.padded 6 _)

namespace Timestamp

/-! ## Date and time of day -/

theorem readDate_chars {d : Date} (valid : d.valid = true) {rest : List Char}
    (marks : IsTimeText (d.chars ++ rest)) : readDate (d.chars ++ rest) = .ok (d, rest) := by
  obtain ⟨first, last, positive, within⟩ := (Date.valid_iff d).mp valid
  have month := Date.month_le valid
  have days := Date.monthLength_le d.year month
  have isMonth : ¬(d.month = 0 ∨ d.month > 12) := by
    rintro (none | beyond)
    · rw [none] at within
      exact absurd within (Nat.not_le.mpr positive)
    · omega
  obtain ⟨y1, y2, y3, y4, high, low, year, hhigh, hlow, sum⟩ := exists_four (n := d.year) (by omega)
  obtain ⟨m1, m2, hm, months⟩ := exists_two (n := d.month) (by omega)
  obtain ⟨d1, d2, hd, dayd⟩ := exists_two (n := d.day) (by omega)
  have text : d.chars ++ rest =
      y1 :: y2 :: y3 :: y4 :: '-' :: m1 :: m2 :: '-' :: d1 :: d2 :: rest := by
    rw [Date.chars, year, hm, hd]
    rfl
  have bytes := marks.length_le_utf8
  rw [text] at bytes ⊢
  have long : ¬ (Text.utf8 (y1 :: y2 :: y3 :: y4 :: '-' :: m1 :: m2 :: '-' :: d1 :: d2 ::
      rest)).length < 10 := by
    simp only [List.length_cons] at bytes
    omega
  unfold readDate
  rw [if_neg long]
  simp only [hhigh, hlow, months, dayd, sum]
  rw [if_neg isMonth, if_neg (by omega)]

/-- A text that may follow the seconds: it goes on with neither a digit nor a point. -/
def EndsSeconds (zone : List Char) : Prop :=
  EndsDigits zone ∧ ∀ c ∈ zone.head?, c ≠ '.' ∧ c ≠ ','

/-- The microseconds as they are written, if there are any. -/
def microChars (micro : Nat) : List Char := if micro = 0 then [] else '.' :: padded 6 micro

theorem fractionMicros_padded {micro : Nat} (h : micro < 1000000) :
    fractionMicros (padded 6 micro) = micro := by
  have length := length_padded 6 (by decide) h
  rw [fractionMicros, List.take_append_of_le_length (by omega), List.take_of_length_le (by omega),
    natOf_padded]

theorem readSeconds?_written {second micro : Nat} (inMinute : second < 60)
    (inSecond : micro < 1000000) {zone : List Char} (ends : EndsSeconds zone) :
    readSeconds? (':' :: (padded 2 second ++ (microChars micro ++ zone))) =
      some (second, micro, zone) := by
  obtain ⟨s1, s2, hs, seconds⟩ := exists_two (n := second) (by omega)
  rw [hs, microChars]
  by_cases whole : micro = 0
  · rw [if_pos whole]
    simp only [List.cons_append, List.nil_append, readSeconds?, seconds, Option.bind_eq_bind,
      Option.bind_some]
    rw [if_neg (by omega), whole]
    cases zone with
    | nil => rfl
    | cons c rest =>
      obtain ⟨point, comma⟩ := ends.2 c rfl
      dsimp only
      rw [if_neg (by simp [point, comma])]
  · rw [if_neg whole]
    have some : ¬ (padded 6 micro).isEmpty = true := by
      have length := length_padded 6 (by decide) inSecond
      intro none
      rw [List.isEmpty_iff.mp none] at length
      cases length
    simp only [List.cons_append, List.nil_append, readSeconds?, seconds, Option.bind_eq_bind,
      Option.bind_some]
    rw [if_neg (by omega), if_pos (.inl trivial),
      Json.takeWhile_digits (padded_areDigits 6 micro) ends.1, if_neg some,
      Json.dropWhile_digits (padded_areDigits 6 micro) ends.1, fractionMicros_padded inSecond]

theorem readTime?_written {m : Moment} (valid : m.Valid) {zone : List Char} {ahead : Option Int}
    (ends : EndsSeconds zone) (read : readAhead? zone = some ahead) :
    readTime? m.date ('T' :: (padded 2 m.hour ++ ':' :: (padded 2 m.minute ++ ':' ::
      (padded 2 m.second ++ (microChars m.micro ++ zone))))) = some ⟨m, ahead⟩ := by
  obtain ⟨h1, h2, hh, hours⟩ := exists_two (n := m.hour) (by have := valid.hour; omega)
  obtain ⟨m1, m2, hm, minutes⟩ := exists_two (n := m.minute) (by have := valid.minute; omega)
  have seconds := readSeconds?_written valid.second valid.micro ends
  rw [hh, hm]
  simp only [List.cons_append, List.nil_append, readTime?, hours, minutes, seconds, read,
    Option.bind_eq_bind, Option.bind_some]
  have separated : ¬(!decide (True ∨ 'T' = 't' ∨ 'T' = ' ' ∨ 'T' = '_')) = true := by decide
  have ofDay : ¬(m.hour > 23 ∨ m.minute > 59) := by
    have := valid.hour
    have := valid.minute
    omega
  rw [if_neg separated, if_neg ofDay]

/-! ## The distance from UTC -/

/-- A text of a distance from UTC, or of none, that may follow a time of day. -/
structure IsZone (zone : List Char) (ahead : Option Int) : Prop where
  read : readAhead? zone = some ahead
  ends : EndsSeconds zone
  marks : IsTimeText zone

theorem zone_none : IsZone [] none where
  read := rfl
  ends := ⟨fun _ h => (nomatch h), fun _ h => (nomatch h)⟩
  marks := fun _ h => nomatch h

theorem endsSeconds_cons {c : Char} {rest : List Char}
    (h : Json.isAsciiDigit c = false ∧ c ≠ '.' ∧ c ≠ ',') : EndsSeconds (c :: rest) := by
  constructor
  · rintro _ ⟨⟩
    exact h.1
  · rintro _ ⟨⟩
    exact h.2

theorem zone_utc : IsZone ['Z'] (some 0) :=
  ⟨rfl, endsSeconds_cons (by decide), .cons (by decide) fun _ h => nomatch h⟩

/-- A distance of whole minutes, of less than a day. -/
def WholeMinutes (n : Int) : Prop := 60000000 ∣ n ∧ n.natAbs < 86400000000

theorem zone_ahead {n : Int} (h : WholeMinutes n) : IsZone (aheadChars n) (some n) := by
  obtain ⟨⟨k, rfl⟩, day⟩ := h
  obtain ⟨hours, minutes, hh, hm, size⟩ : ∃ hours minutes, hours < 24 ∧ minutes < 60 ∧
      k.natAbs = hours * 60 + minutes :=
    ⟨k.natAbs / 60, k.natAbs % 60, by omega, by omega, by omega⟩
  obtain ⟨h1, h2, hours_text, read_hours⟩ := exists_two (n := hours) (by omega)
  obtain ⟨m1, m2, minutes_text, read_minutes⟩ := exists_two (n := minutes) (by omega)
  have seconds : (60000000 * k).natAbs / 1000000 = k.natAbs * 60 := by omega
  have text : aheadChars (60000000 * k) =
      (if 60000000 * k < 0 then '-' else '+') :: [h1, h2, ':', m1, m2] := by
    have inHours : k.natAbs * 60 / 3600 = hours := by omega
    have inMinutes : k.natAbs * 60 / 60 % 60 = minutes := by omega
    have even : k.natAbs * 60 % 60 = 0 := by omega
    have rest : (60000000 * k).natAbs % 1000000 = 0 := by omega
    simp only [aheadChars, seconds, inHours, inMinutes, even, rest, and_self, if_true,
      List.append_nil, hours_text, minutes_text]
    rfl
  have inDay : ¬(minutes > 59 ∨ hours > 23) := by omega
  have marks : IsTimeText [h1, h2, ':', m1, m2] := by
    have joined : IsTimeText (padded 2 hours ++ ':' :: padded 2 minutes) :=
      (IsTimeText.padded 2 hours).append (.cons (by decide) (.padded 2 minutes))
    rwa [hours_text, minutes_text] at joined
  rw [text]
  by_cases behind : 60000000 * k < 0
  · rw [if_pos behind]
    refine ⟨?_, endsSeconds_cons (by decide), .cons (by decide) marks⟩
    simp only [readAhead?, read_hours, read_minutes, Option.bind_some, Option.map_some,
      Option.bind_eq_bind, inDay, if_false, if_true]
    congr 2
    omega
  · rw [if_neg behind]
    refine ⟨?_, endsSeconds_cons (by decide), .cons (by decide) marks⟩
    simp only [readAhead?, read_hours, read_minutes, Option.bind_some, Option.map_some,
      Option.bind_eq_bind, inDay, if_false, Bool.false_eq_true]
    congr 2
    omega

theorem exists_zone_iso {t : Timestamp} (minutes : ∀ n ∈ t.ahead, WholeMinutes n) :
    ∃ zone, IsZone zone t.ahead ∧ t.iso = String.ofList (t.wall.charsWith 'T' ++ zone) := by
  obtain ⟨wall, _ | n⟩ := t
  · refine ⟨[], zone_none, ?_⟩
    rw [List.append_nil]
    rfl
  · refine ⟨aheadChars n, zone_ahead (minutes n rfl), ?_⟩
    rw [String.ofList_append]
    rfl

theorem exists_zone_isoZ {t : Timestamp} (minutes : ∀ n ∈ t.ahead, WholeMinutes n) :
    ∃ zone, IsZone zone t.ahead ∧ t.isoZ = String.ofList (t.wall.charsWith 'T' ++ zone) := by
  unfold isoZ
  split
  · rename_i utc
    refine ⟨['Z'], utc ▸ zone_utc, ?_⟩
    rw [String.ofList_append]
    rfl
  · exact exists_zone_iso minutes

/-! ## Timestamps -/

/-- A timestamp is read from its text. -/
theorem ofText_written {m : Moment} (valid : m.Valid) {zone : List Char} {ahead : Option Int}
    (h : IsZone zone ahead) : ofText (m.charsWith 'T' ++ zone) = .ok ⟨m, ahead⟩ := by
  have marks := m.isTimeText.append h.marks
  have text : m.charsWith 'T' ++ zone = m.date.chars ++
      ('T' :: (padded 2 m.hour ++ ':' :: (padded 2 m.minute ++ ':' ::
        (padded 2 m.second ++ (microChars m.micro ++ zone))))) := by
    simp [Moment.charsWith, microChars]
  rw [text] at marks ⊢
  have year : m.date.year ≠ 0 := by
    have := ((Date.valid_iff m.date).mp valid.date).1
    omega
  unfold ofText
  rw [readDate_chars valid.date marks]
  dsimp only
  rw [readTime?_written valid h.ends h.read]
  exact if_neg year

/-! ## Numbers -/

theorem isAsciiDigit_of_two? {a b : Char} {n : Nat} (h : two? a b = some n) :
    Json.isAsciiDigit a = true := by
  obtain ⟨high, first, -⟩ := Option.bind_eq_some_iff.mp h
  unfold digit? at first
  split at first
  · assumption
  · cases first

/-- A date that is read begins with a digit, and has a hyphen after the year. -/
theorem readDate_hyphen {cs rest : List Char} {d : Date} (h : readDate cs = .ok (d, rest)) :
    ∃ y1 y2 y3 y4 tail, cs = y1 :: y2 :: y3 :: y4 :: '-' :: tail ∧
      Json.isAsciiDigit y1 = true := by
  unfold readDate at h
  repeat' first | split at h | dsimp only at h
  any_goals cases h
  rename_i high low first second _ _ _ _ month _ _ _ _ _ day _ months days _
  exact ⟨_, _, _, _, _, rfl, isAsciiDigit_of_two? first⟩

/-- A number is no date. -/
theorem readDate_number (negative : Bool) {digits : List Char} (h : AreDigits digits) :
    ∃ fault, readDate (Json.signText negative ++ digits) = .error fault := by
  cases read : readDate (Json.signText negative ++ digits) with
  | error fault => exact ⟨fault, rfl⟩
  | ok date =>
    obtain ⟨y1, y2, y3, y4, tail, text, digit⟩ := readDate_hyphen read
    cases negative with
    | true =>
      obtain ⟨rfl, -⟩ := List.cons.inj text
      exact absurd digit (by decide)
    | false =>
      have hyphen : Json.isAsciiDigit '-' = true := by
        refine h '-' ?_
        rw [show digits = y1 :: y2 :: y3 :: y4 :: '-' :: tail from text]
        simp
      exact absurd hyphen (by decide)

theorem sign_decimal (n : Int) :
    Numeral.sign (decimal n).toList = (decide (n < 0), Nat.toDigits 10 n.natAbs) := by
  obtain ⟨c, rest, digits, digit⟩ := (Json.isWhole_toDigits n.natAbs).exists_head
  rw [Json.decimal_toList, digits]
  cases decide (n < 0) with
  | true => rfl
  | false =>
    unfold Numeral.sign
    split
    · rename_i same
      cases same
      exact absurd digit (by decide)
    · rename_i same
      cases same
      exact absurd digit (by decide)
    · rfl

theorem plainNumber?_decimal {n : Int} (small : (n.natAbs : Int) ≤ Word.largest) :
    plainNumber? (decimal n).toList = some (.whole n) := by
  have digits := Json.toDigits_areDigits n.natAbs
  have ends : EndsDigits [] := fun _ h => (nomatch h)
  have taken := Json.takeWhile_digits digits ends
  have left := Json.dropWhile_digits digits ends
  rw [List.append_nil] at taken left
  have fits : ¬((Nat.toDigits 10 n.natAbs).isEmpty = true ∨ (n.natAbs : Int) > Word.largest) := by
    rintro (none | large)
    · exact Nat.toDigits_ne_nil (List.isEmpty_iff.mp none)
    · omega
  have value : (if decide (n < 0) = true then -(n.natAbs : Int) else n.natAbs) = n := by
    by_cases negative : n < 0
    · rw [decide_eq_true negative, if_pos rfl]
      omega
    · rw [decide_eq_false negative, if_neg Bool.false_ne_true]
      omega
  unfold plainNumber?
  rw [sign_decimal]
  dsimp only
  rw [taken, left]
  dsimp only
  rw [Json.natOf_toDigits, if_neg fits, value]

/-- The numeral of a number is read as the number is. -/
theorem ofText_decimal {n : Int} {t : Timestamp} (small : (n.natAbs : Int) ≤ Word.largest)
    (read : ofWhole n 0 = .ok t) : ofText (decimal n).toList = .ok t := by
  have number := plainNumber?_decimal small
  obtain ⟨fault, undated⟩ := readDate_number (decide (n < 0)) (Json.toDigits_areDigits n.natAbs)
  rw [← Json.decimal_toList] at undated
  unfold ofText
  rw [undated, number]
  dsimp only
  rw [read]

end Timestamp

/-- Moments that exist differ in their texts. -/
theorem Moment.iso_injective {m m' : Moment} (h : m.Valid) (h' : m'.Valid) (same : m.iso = m'.iso) :
    m = m' := by
  have read := Timestamp.ofText_written h Timestamp.zone_none
  rw [String.ofList_injective same, Timestamp.ofText_written h' Timestamp.zone_none] at read
  cases read
  rfl

/-- A bare date is read from ten characters only. -/
theorem Date.length_of_ofTen? {cs : List Char} {d : Date} (h : Date.ofTen? cs = some d) :
    cs.length = 10 := by
  unfold ofTen? at h
  split at h
  · cases h
  split at h
  · obtain ⟨high, -, h⟩ := Option.bind_eq_some_iff.mp h
    obtain ⟨low, -, h⟩ := Option.bind_eq_some_iff.mp h
    dsimp only at h
    split at h
    · rfl
    · rfl
    · rfl
    · rfl
    · cases h
  · cases h

namespace Action
variable {cs : List Char} {t : Timestamp}

/-- A text that is no bare date is read as a timestamp. -/
theorem whenCheck_text (marks : IsTimeText cs) (undated : Date.ofTen? cs = none)
    (read : Timestamp.ofText cs = .ok t) : whenCheck (.str (String.ofList cs)) = .ok t := by
  have value : parseWhen (.str (String.ofList cs)) = .value (.str (String.ofList cs)) := by
    unfold parseWhen
    simp only [String.toList_ofList, marks.trim, undated, ite_self]
  rw [whenCheck, value]
  dsimp only
  rw [Schema.timestamp.eq_def]
  dsimp only
  rw [Schema.unicode, String.toList_ofList, if_pos marks.whole]
  unfold Schema.Checked.also
  dsimp only
  rw [String.toList_ofList, read]

/-- The text of a timestamp, as a date-valued setting, is that timestamp. -/
theorem whenCheck_written {m : Moment} (valid : m.Valid) {zone : List Char} {ahead : Option Int}
    (h : Timestamp.IsZone zone ahead) :
    whenCheck (.str (String.ofList (m.charsWith 'T' ++ zone))) = .ok ⟨m, ahead⟩ := by
  refine whenCheck_text (m.isTimeText.append h.marks) ?_ (Timestamp.ofText_written valid h)
  cases dated : Date.ofTen? (m.charsWith 'T' ++ zone) with
  | none => rfl
  | some d =>
    have ten := Date.length_of_ofTen? dated
    obtain ⟨h1, h2, hours, -⟩ := Timestamp.exists_two (n := m.hour) (by have := valid.hour; omega)
    obtain ⟨y1, y2, y3, y4, _, _, year, -⟩ := Timestamp.exists_four (n := m.date.year)
      (by have := ((Date.valid_iff m.date).mp valid.date).2.1; omega)
    simp [Moment.charsWith, Date.chars, hours, year] at ten
    omega

/-- The ISO text of a timestamp is read as it, also where `Z` stands for UTC. -/
theorem whenCheck_iso (valid : t.wall.Valid) (minutes : ∀ n ∈ t.ahead, Timestamp.WholeMinutes n) :
    whenCheck (.str t.iso) = .ok t ∧ whenCheck (.str t.isoZ) = .ok t := by
  obtain ⟨zone, isZone, text⟩ := Timestamp.exists_zone_iso minutes
  obtain ⟨zone', isZone', text'⟩ := Timestamp.exists_zone_isoZ minutes
  rw [text, text']
  exact ⟨whenCheck_written valid isZone, whenCheck_written valid isZone'⟩

theorem isTimeText_decimal (n : Int) : IsTimeText (decimal n).toList := by
  rw [Json.decimal_toList]
  refine .append ?_ (.ofDigits (Json.toDigits_areDigits n.natAbs))
  cases decide (n < 0) with
  | true => exact .cons (by decide) fun _ h => nomatch h
  | false => exact fun _ h => nomatch h

/-- The numeral of a number on a date that exists is read as the number is, unless its characters
are a bare date. -/
theorem whenCheck_decimal {n : Int} (h : Timestamp.IsUnix n) :
    whenCheck (.str (decimal n)) =
      match Date.ofTen? (decimal n).toList with
      | some d => .ok (.plain (.midnight d))
      | none => whenCheck (.int n) := by
  have marks := isTimeText_decimal n
  cases dated : Date.ofTen? (decimal n).toList with
  | some d =>
    have ten : Text.size (decimal n).toList = 10 := by
      rw [marks.size, Date.length_of_ofTen? dated]
    rw [whenCheck, parseWhen]
    simp only [marks.trim, ten, dated, if_true]
  | none =>
    have small := h.small
    obtain ⟨t, read⟩ := h.exists_ofWhole
    have text := whenCheck_text marks dated (Timestamp.ofText_decimal (by
      have : Word.largest = 9223372036854775807 := rfl
      omega) read)
    rw [String.ofList_toList] at text
    rw [text, whenCheck_whole small read]

end Action
end TaskRules
