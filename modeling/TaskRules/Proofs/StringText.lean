import TaskRules.Json.Reader
import TaskRules.Json.Writer
import TaskRules.Proofs.Numerals
import TaskRules.Proofs.Words

/-!
Strings as JSON text, written and read back. Text is written in ASCII: other characters are
escaped, those of the higher planes as two units. A text that holds no lone half is made of
characters (`Text.OfCharacters`), and each of them is read back from its escapes.

Proved:
- `points_ofChars`, `ofUnits_ofChars`: the code points and the units of a text of characters.
- `stringUnits_chars`: the escapes of characters are read as their units.
- `readString_text`: a text of characters is read from the string that it is written as.
-/

namespace TaskRules.Text

/-! ## Texts of characters -/

/-- A text of characters alone, which therefore holds no lone half. -/
def OfCharacters (cs : List Char) : Prop := ∃ chars, cs = ofChars chars

theorem toNat_lt (c : Char) : c.toNat < 0x110000 := by
  have : c.toNat < 0xD800 ∨ 0xDFFF < c.toNat ∧ c.toNat < 0x110000 := c.valid
  omega

/-- Two characters that write a code point together. -/
theorem pairPoint_place {place : Nat} (h : place < leadCount * trailCount) :
    pairPoint? (Char.ofNat (firstLead + place / trailCount))
      (Char.ofNat (firstTrail + place % trailCount)) = some (pointAt place) := by
  have hdiv : place / trailCount < leadCount := (Nat.div_lt_iff_lt_mul (by decide)).mpr h
  have hmod : place % trailCount < trailCount := Nat.mod_lt _ (by decide)
  have split : place / trailCount * trailCount + place % trailCount = place := by
    rw [Nat.mul_comm]
    exact Nat.div_add_mod ..
  have hlead : 0xE000 ≤ firstLead ∧ firstLead + leadCount ≤ 0x110000 := by decide
  have htrail : 0xE000 ≤ firstTrail ∧ firstTrail + trailCount = firstLead := by decide
  generalize place / trailCount = a at *
  generalize place % trailCount = b at *
  unfold pairPoint?
  rw [toNat_ofNat (.inr (by omega)), toNat_ofNat (.inr (by omega)), if_pos (by omega),
    Nat.add_sub_cancel_left, Nat.add_sub_cancel_left, split]

/-- A character is one code point. -/
theorem points_ofPoint (c : Char) (rest : List Char) :
    points (ofPoint c.toNat ++ rest) = c.toNat :: points rest := by
  have hhalf := isHalf_toNat c
  unfold ofPoint pairPlace?
  rw [hhalf, if_neg (by decide)]
  by_cases hp : firstTrail ≤ c.toNat ∧ c.toNat < firstLead + leadCount
  · have hplace : halfCount + (c.toNat - firstTrail) < leadCount * trailCount := by
      have h1 : halfCount = 2048 := rfl
      have h2 : leadCount * trailCount = 4100 := rfl
      have h3 : firstTrail = 1103872 := rfl
      have h4 : firstLead + leadCount = 1105924 := rfl
      omega
    have hpoint : pointAt (halfCount + (c.toNat - firstTrail)) = c.toNat := by
      unfold pointAt
      rw [if_neg (by omega)]
      omega
    rw [if_pos hp]
    show points (_ :: _ :: rest) = _
    rw [points, pairPoint_place hplace, hpoint]
  · rw [if_neg hp]
    dsimp only
    rw [Char.ofNat_toNat]
    cases rest with
    | nil => rfl
    | cons b rest =>
      have hnone : pairPoint? c b = none := by
        have : firstTrail ≤ firstLead := by decide
        unfold pairPoint?
        rw [if_neg]
        omega
      rw [List.singleton_append, points, hnone]

/-- The code points of a text of characters are the characters. -/
theorem points_ofChars (chars : List Char) : points (ofChars chars) = chars.map Char.toNat := by
  induction chars with
  | nil => rfl
  | cons c rest ih =>
    show points (ofPoint c.toNat ++ ofChars rest) = _
    rw [points_ofPoint, ih]
    rfl

/-! ## Units -/

/-- The units of 16 bits that write a character. -/
def unitsOf (c : Char) : List Nat :=
  if c.toNat < 0x10000 then [c.toNat]
  else [0xD800 + (c.toNat - 0x10000) / 0x400, 0xDC00 + (c.toNat - 0x10000) % 0x400]

theorem ofUnits_unitsOf (c : Char) (rest : List Nat) :
    ofUnits (unitsOf c ++ rest) = ofPoint c.toNat ++ ofUnits rest := by
  have hlt := toNat_lt c
  have hhalf := isHalf_toNat c
  unfold unitsOf
  split
  · rename_i hsmall
    have hplain : ofPoint c.toNat = ofUnits.ofUnit c.toNat := by
      have hp : ¬(firstTrail ≤ c.toNat ∧ c.toNat < firstLead + leadCount) := by
        have : firstTrail = 1103872 := rfl
        omega
      simp only [ofPoint, pairPlace?, ofUnits.ofUnit, hhalf, if_neg hp]
      rfl
    rw [hplain]
    cases rest with
    | nil => simp [ofUnits]
    | cons l rest =>
      rw [List.singleton_append, ofUnits, if_neg]
      simp only [isHalf, Bool.and_eq_false_iff, decide_eq_false_iff_not] at hhalf
      omega
  · rename_i hlarge
    have hpoint : 0x10000 + (0xD800 + (c.toNat - 0x10000) / 0x400 - 0xD800) * 0x400 +
        (0xDC00 + (c.toNat - 0x10000) % 0x400 - 0xDC00) = c.toNat := by omega
    rw [List.cons_append, List.singleton_append, ofUnits, if_pos (by omega), hpoint]

theorem ofUnits_ofChars (chars : List Char) : ofUnits (chars.flatMap unitsOf) = ofChars chars := by
  induction chars with
  | nil => rfl
  | cons c rest ih =>
    rw [List.flatMap_cons, ofUnits_unitsOf, ih]
    rfl

end TaskRules.Text

namespace TaskRules.Json

/-! ## Escapes -/

theorem hexValue_hexDigit (n : Nat) : Text.hexValue? (Text.hexDigit n) = some (n % 16) := by
  have h : ∀ k < 16, Text.hexValue? (Nat.digitChar k) = some k := by decide
  exact h _ (Nat.mod_lt _ (by decide))

theorem unitOf_hex {n : Nat} (h : n < 0x10000) :
    unitOf? (Text.hexDigit (n / 16 / 16 / 16)) (Text.hexDigit (n / 16 / 16))
      (Text.hexDigit (n / 16)) (Text.hexDigit n) = some n := by
  simp only [unitOf?, hexValue_hexDigit, Option.bind_eq_bind, Option.bind_some, Option.pure_def]
  congr 1
  omega

theorem stringUnits_unit {n : Nat} (h : n < 0x10000) (start : Nat) {rest : List Char}
    (hne : rest ≠ []) (acc : List Nat) :
    stringUnits start (unitEscape n ++ rest) acc = stringUnits start rest (n :: acc) := by
  show stringUnits start ('\\' :: 'u' :: Text.hexDigit (n / 16 / 16 / 16) ::
    Text.hexDigit (n / 16 / 16) :: Text.hexDigit (n / 16) :: Text.hexDigit n :: rest) acc = _
  have hempty : rest.isEmpty = false := by simpa using hne
  rw [stringUnits, unitOf_hex h]
  simp [hempty]

theorem stringUnits_plain {c : Char} (h1 : c ≠ '"') (h2 : c ≠ '\\') (h3 : 0x20 ≤ c.toNat)
    (start : Nat) (rest : List Char) (acc : List Nat) :
    stringUnits start (c :: rest) acc = stringUnits start rest (c.toNat :: acc) := by
  rw [stringUnits, if_neg (by omega)]
  all_goals simp_all

/-- A character of a string is read from its text. -/
theorem stringUnits_char (c : Char) (start : Nat) {rest : List Char} (hne : rest ≠ [])
    (acc : List Nat) :
    stringUnits start (escapedChar c ++ rest) acc =
      stringUnits start rest ((Text.unitsOf c).reverse ++ acc) := by
  unfold escapedChar
  by_cases h1 : c = '"' ∨ c = '\\'
  · rw [if_pos h1]
    rcases h1 with rfl | rfl <;> rfl
  rw [if_neg h1]
  by_cases h2 : c = '\n'
  · subst h2; rfl
  rw [if_neg h2]
  by_cases h3 : c = '\r'
  · subst h3; rfl
  rw [if_neg h3]
  by_cases h4 : c = '\t'
  · subst h4; rfl
  rw [if_neg h4]
  by_cases h5 : c = '\x08'
  · subst h5; rfl
  rw [if_neg h5]
  by_cases h6 : c = '\x0c'
  · subst h6; rfl
  rw [if_neg h6]
  rw [not_or] at h1
  by_cases h7 : 0x20 ≤ c.toNat ∧ c.toNat ≤ 0x7E
  · have hunits : Text.unitsOf c = [c.toNat] := if_pos (by omega)
    rw [if_pos h7, hunits]
    exact stringUnits_plain h1.1 h1.2 h7.1 start rest acc
  rw [if_neg h7]
  by_cases h8 : c.toNat < 0x10000
  · have hunits : Text.unitsOf c = [c.toNat] := if_pos h8
    rw [if_pos h8, hunits]
    exact stringUnits_unit h8 start hne acc
  · have hlt := Text.toNat_lt c
    have hunits : Text.unitsOf c = [0xD800 + (c.toNat - 0x10000) / 0x400,
        0xDC00 + (c.toNat - 0x10000) % 0x400] := if_neg h8
    rw [if_neg h8, hunits, List.append_assoc,
      stringUnits_unit (by omega) start (List.append_ne_nil_of_right_ne_nil _ hne),
      stringUnits_unit (by omega) start hne]
    rfl

theorem stringUnits_chars (chars : List Char) (start : Nat) (rest : List Char) (acc : List Nat) :
    stringUnits start (chars.flatMap escapedChar ++ '"' :: rest) acc =
      .ok (acc.reverse ++ chars.flatMap Text.unitsOf, rest) := by
  induction chars generalizing acc with
  | nil =>
    show stringUnits start ('"' :: rest) acc = _
    rw [stringUnits, List.flatMap_nil, List.append_nil]
  | cons c more ih =>
    rw [List.flatMap_cons, List.append_assoc,
      stringUnits_char c start (List.append_ne_nil_of_right_ne_nil _ (List.cons_ne_nil _ _)), ih,
      List.flatMap_cons]
    simp

theorem escapedPoint_toNat (c : Char) : escapedPoint c.toNat = escapedChar c := by
  rw [escapedPoint, Text.isHalf_toNat, Char.ofNat_toNat]
  rfl

theorem stringText_toList {s : String} {chars : List Char} (h : s.toList = Text.ofChars chars) :
    (stringText s).toList = '"' :: (chars.flatMap escapedChar ++ ['"']) := by
  rw [stringText, String.toList_ofList, h, Text.points_ofChars, List.flatMap_map]
  simp only [escapedPoint_toNat]

/-- A text of characters is read from the JSON string that it is written as. -/
theorem readString_text {s : String} (h : Text.OfCharacters s.toList) (rest : List Char) :
    ∃ cs, (stringText s).toList = '"' :: cs ∧ readString (cs ++ rest) = .ok (s, rest) := by
  obtain ⟨chars, hs⟩ := h
  refine ⟨_, stringText_toList hs, ?_⟩
  rw [List.append_assoc, readString]
  show (stringUnits _ (chars.flatMap escapedChar ++ '"' :: rest) [] >>= _) = _
  rw [stringUnits_chars]
  show Except.ok (String.ofList (Text.ofUnits (chars.flatMap Text.unitsOf)), rest) = _
  rw [Text.ofUnits_ofChars, ← hs, String.ofList_toList]

end TaskRules.Json
