import TaskRules.Json.Plain
import TaskRules.Proofs.NumberText
import TaskRules.Proofs.StringText

/-!
Values as JSON text, written and read back. What can be read (`IsReadable`) has integers of bounded
length, doubles that binary64 has and no name twice in an object; what also holds no lone half in a
string can be written and read again (`IsWritable`).

Proved:
- `readItems_text`, `readFields_text`: the items and the fields of a value that are read back one
  by one are read back together.
- `IsWritable.isReadBack`: by induction on the value, whatever text follows.
- `read_text`: a value is read from the text that it is written as.
-/

namespace TaskRules.Json

/-! ## Values inside values -/

/-- A value and every value inside it pass a test. -/
inductive Throughout (P : Json → Prop) : Json → Prop
  | null : P .null → Throughout P .null
  | bool {b : Bool} : P (.bool b) → Throughout P (.bool b)
  | int {n : Int} : P (.int n) → Throughout P (.int n)
  | double {x : Double} : P (.double x) → Throughout P (.double x)
  | str {s : String} : P (.str s) → Throughout P (.str s)
  | arr {items : List Json} : P (.arr items) → (∀ v ∈ items, Throughout P v) →
    Throughout P (.arr items)
  | obj {fields : Fields} : P (.obj fields) → (∀ f ∈ fields, Throughout P f.2) →
    Throughout P (.obj fields)

namespace Throughout
variable {P Q : Json → Prop}

theorem here {v : Json} (h : v.Throughout P) : P v := by cases h <;> assumption

theorem fields {fields : Fields} (h : (Json.obj fields).Throughout P) :
    ∀ f ∈ fields, f.2.Throughout P := by
  cases h
  assumption

theorem imp {v : Json} (h : v.Throughout P) (hpq : ∀ v, P v → Q v) : v.Throughout Q := by
  induction h with
  | null hp => exact .null (hpq _ hp)
  | bool hp => exact .bool (hpq _ hp)
  | int hp => exact .int (hpq _ hp)
  | double hp => exact .double (hpq _ hp)
  | str hp => exact .str (hpq _ hp)
  | arr hp _ ih => exact .arr (hpq _ hp) ih
  | obj hp _ ih => exact .obj (hpq _ hp) ih

theorem and {v : Json} (h : v.Throughout P) (h' : v.Throughout Q) :
    v.Throughout fun v => P v ∧ Q v := by
  induction h with
  | null hp => exact .null ⟨hp, h'.here⟩
  | bool hp => exact .bool ⟨hp, h'.here⟩
  | int hp => exact .int ⟨hp, h'.here⟩
  | double hp => exact .double ⟨hp, h'.here⟩
  | str hp => exact .str ⟨hp, h'.here⟩
  | arr hp _ ih =>
    cases h' with
    | arr hq hi => exact .arr ⟨hp, hq⟩ fun v hv => ih v hv (hi v hv)
  | obj hp _ ih =>
    cases h' with
    | obj hq hf => exact .obj ⟨hp, hq⟩ fun f hf' => ih f hf' (hf f hf')

end Throughout

/-- What a value is that was read from JSON text: an integer is not too long, a double is one that
binary64 has, and an object has each name once. -/
def IsReadable : Json → Prop
  | .int n => n.natAbs < 10 ^ maxDigits
  | .double x => x.InFormat
  | .obj fields => (Fields.names fields).Nodup
  | _ => True

/-- Texts and names are made of characters. -/
def HoldsCharacters : Json → Prop
  | .str s => Text.OfCharacters s.toList
  | .obj fields => ∀ name ∈ Fields.names fields, Text.OfCharacters name.toList
  | _ => True

/-- A value that JSON text can write and that is read back. -/
def IsWritable (v : Json) : Prop := v.Throughout fun v => IsReadable v ∧ HoldsCharacters v

/-! ## The first character of a text -/

theorem digit_cases {c : Char} (h : isAsciiDigit c = true) :
    c = '0' ∨ c = '1' ∨ c = '2' ∨ c = '3' ∨ c = '4' ∨ c = '5' ∨ c = '6' ∨ c = '7' ∨ c = '8' ∨
      c = '9' := by
  rw [isAsciiDigit, Bool.and_eq_true, decide_eq_true_eq, decide_eq_true_eq] at h
  have h1 : 48 ≤ c.toNat := h.1
  have h2 : c.toNat ≤ 57 := h.2
  have hc : c = Char.ofNat c.toNat := (Char.ofNat_toNat c).symm
  generalize c.toNat = n at h1 h2 hc
  obtain rfl | rfl | rfl | rfl | rfl | rfl | rfl | rfl | rfl | rfl : n = 48 ∨ n = 49 ∨ n = 50 ∨
    n = 51 ∨ n = 52 ∨ n = 53 ∨ n = 54 ∨ n = 55 ∨ n = 56 ∨ n = 57 := by omega
  all_goals simp [hc]

theorem readValue_number {cs : List Char} (h : StartsNumber cs) (fuel : Nat) :
    readValue (fuel + 1) cs = readNumber cs := by
  obtain ⟨negative, c, rest, rfl, hc⟩ := h
  rcases digit_cases hc with rfl | rfl | rfl | rfl | rfl | rfl | rfl | rfl | rfl | rfl <;>
    cases negative <;> rfl

/-- What a value's text starts with: no space, no mark, and nothing that ends a list. -/
def StartsValue (cs : List Char) : Prop :=
  ∃ c rest, cs = c :: rest ∧ isSpace c = false ∧ c ≠ ']' ∧ c ≠ '\uFEFF'

theorem StartsNumber.startsValue {cs : List Char} (h : StartsNumber cs) : StartsValue cs := by
  obtain ⟨negative, c, rest, rfl, hc⟩ := h
  cases negative with
  | true => exact ⟨'-', c :: rest, rfl, by decide, by decide, by decide⟩
  | false =>
    refine ⟨c, rest, rfl, ?_⟩
    rcases digit_cases hc with rfl | rfl | rfl | rfl | rfl | rfl | rfl | rfl | rfl | rfl <;> decide

theorem StartsValue.append {cs : List Char} (h : StartsValue cs) (rest : List Char) :
    StartsValue (cs ++ rest) := by
  obtain ⟨c, more, rfl, hc⟩ := h
  exact ⟨c, more ++ rest, rfl, hc⟩

theorem StartsValue.skipSpace {cs : List Char} (h : StartsValue cs) : skipSpace cs = cs := by
  obtain ⟨c, rest, rfl, hc, -⟩ := h
  simp [Json.skipSpace, hc]

theorem stringText_cons (s : String) : ∃ rest, (stringText s).toList = '"' :: rest :=
  ⟨_, String.toList_ofList ..⟩

theorem text_startsValue {v : Json} (h : IsReadable v) : StartsValue v.text.toList := by
  cases v with
  | null => exact ⟨_, _, rfl, by decide, by decide, by decide⟩
  | bool b => cases b <;> exact ⟨_, _, rfl, by decide, by decide, by decide⟩
  | int n => exact (decimal_startsNumber n).startsValue
  | double x =>
    cases x with
    | nan => exact ⟨_, _, rfl, by decide, by decide, by decide⟩
    | infinite negative => cases negative <;> exact ⟨_, _, rfl, by decide, by decide, by decide⟩
    | finite negative steps => exact (double_startsNumber h).startsValue
  | str s =>
    obtain ⟨rest, h⟩ := stringText_cons s
    exact ⟨_, rest, h, by decide, by decide, by decide⟩
  | arr items =>
    refine ⟨'[', (itemsText items ++ "]").toList, ?_, by decide, by decide, by decide⟩
    simp [text]
  | obj fields =>
    refine ⟨'\x7b', (fieldsText fields ++ "\x7d").toList, ?_, by decide, by decide, by decide⟩
    simp [text]

/-! ## Objects -/

theorem put_names (fields : Fields) (name : String) (v : Json) :
    Fields.names (Fields.put fields name v) =
      if name ∈ Fields.names fields then Fields.names fields
      else Fields.names fields ++ [name] := by
  induction fields with
  | nil => rfl
  | cons f rest ih =>
    obtain ⟨k, w⟩ := f
    rw [Fields.put]
    by_cases h : k = name
    · simp [h, Fields.names]
    · have hne : ¬name = k := fun hk => h hk.symm
      simp only [if_neg h, Fields.names, List.map_cons, List.mem_cons, hne, false_or] at ih ⊢
      rw [ih]
      split <;> simp_all

theorem put_new {fields : Fields} {name : String} (h : name ∉ Fields.names fields) (v : Json) :
    Fields.put fields name v = fields ++ [(name, v)] := by
  induction fields with
  | nil => rfl
  | cons f rest ih =>
    obtain ⟨k, w⟩ := f
    rw [Fields.names, List.map_cons, List.mem_cons, not_or] at h
    rw [Fields.put, if_neg (fun hk => h.1 hk.symm), ih h.2]
    rfl

/-- Fields with a name each are all kept. -/
theorem ofPairs_nodup {fields : Fields} (h : (Fields.names fields).Nodup) :
    Fields.ofPairs fields = fields := by
  have go : ∀ (rest before : Fields), (Fields.names (before ++ rest)).Nodup →
      rest.foldl (fun fields p => Fields.put fields p.1 p.2) before = before ++ rest := by
    intro rest
    induction rest with
    | nil => intro before _; rw [List.append_nil]; rfl
    | cons f rest ih =>
      intro before hnodup
      have hnew : f.1 ∉ Fields.names before := by
        rw [Fields.names, List.map_append, List.map_cons] at hnodup
        intro hmem
        exact (List.nodup_append.mp hnodup).2.2 f.1 hmem f.1 (List.mem_cons_self ..) rfl
      rw [List.foldl_cons, put_new hnew, ih]
      · rw [List.append_assoc]; rfl
      · rw [List.append_assoc]; exact hnodup
  exact go fields [] h

/-! ## Writing and reading -/

theorem endsNumber_of {c : Char} (h : c = ',' ∨ c = ']' ∨ c = '\x7d') (rest : List Char) :
    EndsNumber (c :: rest) := by
  intro d hd
  cases hd
  rcases h with rfl | rfl | rfl <;> decide

/-- A value is read from its text, up to what follows. -/
def IsReadBack (v : Json) : Prop :=
  ∀ fuel rest, 2 * v.text.toList.length + 1 ≤ fuel → EndsNumber rest →
    readValue fuel (v.text.toList ++ rest) = .ok (v, rest)

theorem skipSpace_cons {c : Char} (h : isSpace c = false) (rest : List Char) :
    skipSpace (c :: rest) = c :: rest := by
  simp [skipSpace, h]

/-- One item, and what follows it in a list. -/
theorem readItems_item {v : Json} (hv : v.IsReadBack) {fuel : Nat} {rest : List Char}
    (hf : 2 * v.text.toList.length + 1 ≤ fuel) (hr : EndsNumber rest) (acc : List Json) :
    readItems (fuel + 1) (v.text.toList ++ rest) acc =
      match skipSpace rest with
      | ']' :: rest => .ok (.arr (v :: acc).reverse, rest)
      | ',' :: rest => readItems fuel (skipSpace rest) (v :: acc)
      | rest => .error (.malformed rest.length) := by
  rw [readItems, hv fuel rest hf hr]
  rfl

/-- Items are read from their text, up to the end of the list. -/
theorem readItems_text {items : List Json}
    (hi : ∀ w ∈ items, w.IsReadBack ∧ StartsValue w.text.toList) {v : Json} (hv : v.IsReadBack)
    (fuel : Nat) (hf : 2 * (itemsText (v :: items)).toList.length + 2 ≤ fuel) (rest : List Char)
    (acc : List Json) :
    readItems fuel ((itemsText (v :: items)).toList ++ ']' :: rest) acc =
      .ok (.arr (acc.reverse ++ v :: items), rest) := by
  induction items generalizing v fuel acc with
  | nil =>
    obtain ⟨fuel, rfl⟩ := Nat.exists_eq_succ_of_ne_zero (show fuel ≠ 0 by omega)
    have htext : (itemsText [v]).toList = v.text.toList := by simp [itemsText, itemsTail]
    rw [htext] at hf ⊢
    rw [readItems_item hv (by omega) (endsNumber_of (.inr (.inl rfl)) rest),
      skipSpace_cons (by decide)]
    simp
  | cons w items ih =>
    obtain ⟨fuel, rfl⟩ := Nat.exists_eq_succ_of_ne_zero (show fuel ≠ 0 by omega)
    have htext : (itemsText (v :: w :: items)).toList =
        v.text.toList ++ ',' :: ' ' :: (itemsText (w :: items)).toList := by
      simp [itemsText, itemsTail]
    have hw := hi w (List.mem_cons_self ..)
    have hstart : StartsValue ((itemsText (w :: items)).toList ++ ']' :: rest) := by
      rw [itemsText, String.toList_append, List.append_assoc]
      exact hw.2.append _
    have hspace : skipSpace (' ' :: ((itemsText (w :: items)).toList ++ ']' :: rest)) =
        (itemsText (w :: items)).toList ++ ']' :: rest := hstart.skipSpace
    rw [htext, List.length_append] at hf
    simp only [List.length_cons] at hf
    rw [htext, List.append_assoc]
    show readItems (fuel + 1) (v.text.toList ++ ',' :: ' ' ::
      ((itemsText (w :: items)).toList ++ ']' :: rest)) acc = _
    rw [readItems_item hv (by omega) (endsNumber_of (.inl rfl) _), skipSpace_cons (by decide)]
    show readItems fuel (skipSpace (' ' :: ((itemsText (w :: items)).toList ++ ']' :: rest)))
      (v :: acc) = _
    rw [hspace, ih (fun u hu => hi u (List.mem_cons_of_mem _ hu)) hw.1 fuel (by omega)]
    simp

/-- One field, and what follows it in an object. -/
theorem readFields_field {k : String} (hk : Text.OfCharacters k.toList) {v : Json}
    (hv : v.IsReadBack) (hs : StartsValue v.text.toList) {fuel : Nat} {rest : List Char}
    (hf : 2 * v.text.toList.length + 1 ≤ fuel) (hr : EndsNumber rest) (acc : Fields) :
    readFields (fuel + 1) ((stringText k).toList ++ ':' :: ' ' :: (v.text.toList ++ rest)) acc =
      match skipSpace rest with
      | '\x7d' :: rest => .ok (.obj (Fields.ofPairs ((k, v) :: acc).reverse), rest)
      | ',' :: rest => readFields fuel (skipSpace rest) ((k, v) :: acc)
      | rest => .error (.malformed rest.length) := by
  obtain ⟨cs, hcs, hread⟩ := readString_text hk (':' :: ' ' :: (v.text.toList ++ rest))
  have hspace : skipSpace (' ' :: (v.text.toList ++ rest)) = v.text.toList ++ rest :=
    (hs.append rest).skipSpace
  have hcolon : skipSpace (':' :: ' ' :: (v.text.toList ++ rest)) =
      ':' :: ' ' :: (v.text.toList ++ rest) := skipSpace_cons (by decide) _
  rw [hcs, List.cons_append, readFields, hread]
  simp only [bind, Except.bind, hcolon, hspace, hv fuel rest hf hr]
  rfl

/-- Fields are read from their text, up to the end of the object. -/
theorem readFields_text {fields : Fields}
    (hi : ∀ f ∈ fields, Text.OfCharacters f.1.toList ∧ f.2.IsReadBack ∧ StartsValue f.2.text.toList)
    {k : String} (hk : Text.OfCharacters k.toList) {v : Json} (hv : v.IsReadBack)
    (hs : StartsValue v.text.toList) (fuel : Nat)
    (hf : 2 * (fieldsText ((k, v) :: fields)).toList.length + 2 ≤ fuel) (rest : List Char)
    (acc : Fields) :
    readFields fuel ((fieldsText ((k, v) :: fields)).toList ++ '\x7d' :: rest) acc =
      .ok (.obj (Fields.ofPairs (acc.reverse ++ (k, v) :: fields)), rest) := by
  induction fields generalizing k v fuel acc with
  | nil =>
    obtain ⟨fuel, rfl⟩ := Nat.exists_eq_succ_of_ne_zero (show fuel ≠ 0 by omega)
    have htext : (fieldsText [(k, v)]).toList = (stringText k).toList ++ ':' :: ' ' ::
        v.text.toList := by
      simp [fieldsText, fieldsTail]
    rw [htext, List.length_append] at hf
    simp only [List.length_cons] at hf
    rw [htext, List.append_assoc]
    show readFields (fuel + 1) ((stringText k).toList ++ ':' :: ' ' ::
      (v.text.toList ++ '\x7d' :: rest)) acc = _
    rw [readFields_field hk hv hs (by omega) (endsNumber_of (.inr (.inr rfl)) rest),
      skipSpace_cons (by decide)]
    simp
  | cons f fields ih =>
    obtain ⟨k', w⟩ := f
    obtain ⟨fuel, rfl⟩ := Nat.exists_eq_succ_of_ne_zero (show fuel ≠ 0 by omega)
    have htext : (fieldsText ((k, v) :: (k', w) :: fields)).toList =
        (stringText k).toList ++ ':' :: ' ' ::
          (v.text.toList ++ ',' :: ' ' :: (fieldsText ((k', w) :: fields)).toList) := by
      simp [fieldsText, fieldsTail]
    obtain ⟨hk', hw, hws⟩ : Text.OfCharacters k'.toList ∧ w.IsReadBack ∧
        StartsValue w.text.toList := hi (k', w) (List.mem_cons_self ..)
    have hspace : skipSpace (' ' :: ((fieldsText ((k', w) :: fields)).toList ++ '\x7d' :: rest)) =
        (fieldsText ((k', w) :: fields)).toList ++ '\x7d' :: rest := by
      obtain ⟨cs, hcs⟩ := stringText_cons k'
      have hcons : (fieldsText ((k', w) :: fields)).toList =
          '"' :: (cs ++ (": " ++ text w ++ fieldsTail fields).toList) := by
        simp [fieldsText, hcs]
      rw [hcons]
      exact skipSpace_cons (c := '"') (by decide) _
    rw [htext, List.length_append] at hf
    simp only [List.length_cons, List.length_append] at hf
    rw [htext, List.append_assoc]
    show readFields (fuel + 1) ((stringText k).toList ++ ':' :: ' ' ::
      (v.text.toList ++ ',' :: ' ' :: (fieldsText ((k', w) :: fields)).toList ++ '\x7d' :: rest))
      acc = _
    rw [List.append_assoc, readFields_field hk hv hs (by omega)
      (by exact endsNumber_of (.inl rfl) _)]
    show readFields fuel (skipSpace (' ' :: ((fieldsText ((k', w) :: fields)).toList ++
      '\x7d' :: rest))) ((k, v) :: acc) = _
    rw [hspace, ih (fun u hu => hi u (List.mem_cons_of_mem _ hu)) hk' hw hws fuel (by omega)]
    simp

theorem isReadBack_arr {items : List Json}
    (h : ∀ v ∈ items, v.IsReadBack ∧ StartsValue v.text.toList) : (arr items).IsReadBack := by
  intro fuel rest hf hr
  obtain ⟨fuel, rfl⟩ := Nat.exists_eq_succ_of_ne_zero (show fuel ≠ 0 by omega)
  cases items with
  | nil => rfl
  | cons v items =>
    have htext : (arr (v :: items)).text.toList =
        '[' :: ((itemsText (v :: items)).toList ++ [']']) := by
      simp [text]
    obtain ⟨hv, hs⟩ := h v (List.mem_cons_self ..)
    obtain ⟨c, cs, hcs, hspace, hclose, -⟩ : StartsValue
        ((itemsText (v :: items)).toList ++ ']' :: rest) := by
      rw [itemsText, String.toList_append, List.append_assoc]
      exact hs.append _
    rw [htext] at hf
    simp only [List.length_cons, List.length_append, List.length_nil] at hf
    have hread := readItems_text (fun w hw => h w (List.mem_cons_of_mem _ hw)) hv fuel (by omega)
      rest []
    rw [htext]
    show readValue (fuel + 1) ('[' :: ((itemsText (v :: items)).toList ++ [']'] ++ rest)) = _
    rw [List.append_assoc]
    show readValue (fuel + 1) ('[' :: ((itemsText (v :: items)).toList ++ ']' :: rest)) = _
    rw [hcs] at hread ⊢
    rw [readValue, skipSpace_cons hspace]
    split
    · rename_i hc
      exact absurd (List.cons.inj hc).1 hclose
    · exact hread

theorem isReadBack_obj {fields : Fields} (hn : (Fields.names fields).Nodup)
    (h : ∀ f ∈ fields, Text.OfCharacters f.1.toList ∧ f.2.IsReadBack ∧
      StartsValue f.2.text.toList) : (obj fields).IsReadBack := by
  intro fuel rest hf hr
  obtain ⟨fuel, rfl⟩ := Nat.exists_eq_succ_of_ne_zero (show fuel ≠ 0 by omega)
  cases fields with
  | nil => rfl
  | cons f fields =>
    obtain ⟨k, v⟩ := f
    have htext : (obj ((k, v) :: fields)).text.toList =
        '\x7b' :: ((fieldsText ((k, v) :: fields)).toList ++ ['\x7d']) := by
      simp [text]
    obtain ⟨hk, hv, hs⟩ : Text.OfCharacters k.toList ∧ v.IsReadBack ∧ StartsValue v.text.toList :=
      h (k, v) (List.mem_cons_self ..)
    obtain ⟨cs, hcs⟩ : ∃ cs, (fieldsText ((k, v) :: fields)).toList ++ '\x7d' :: rest =
        '"' :: cs := by
      obtain ⟨cs, hcs⟩ := stringText_cons k
      exact ⟨_, by simp [fieldsText, hcs]; rfl⟩
    rw [htext] at hf
    simp only [List.length_cons, List.length_append, List.length_nil] at hf
    have hread := readFields_text (fun w hw => h w (List.mem_cons_of_mem _ hw)) hk hv hs fuel
      (by omega) rest []
    rw [htext]
    show readValue (fuel + 1) ('\x7b' :: ((fieldsText ((k, v) :: fields)).toList ++ ['\x7d'] ++
      rest)) = _
    rw [List.append_assoc]
    show readValue (fuel + 1) ('\x7b' :: ((fieldsText ((k, v) :: fields)).toList ++
      '\x7d' :: rest)) = _
    rw [hcs] at hread ⊢
    rw [readValue, skipSpace_cons (by decide)]
    show readFields fuel ('"' :: cs) [] = _
    rw [hread, List.reverse_nil, List.nil_append, ofPairs_nodup hn]

theorem isReadBack_number {v : Json} (hs : StartsNumber v.text.toList)
    (hr : ∀ rest, EndsNumber rest → readNumber (v.text.toList ++ rest) = .ok (v, rest)) :
    v.IsReadBack := by
  intro fuel rest hf hends
  obtain ⟨fuel, rfl⟩ := Nat.exists_eq_succ_of_ne_zero (show fuel ≠ 0 by omega)
  rw [readValue_number (hs.append rest), hr rest hends]

/-- A value is read back from its text. -/
theorem IsWritable.isReadBack {v : Json} (h : v.IsWritable) : v.IsReadBack := by
  unfold IsWritable at h
  induction h with
  | null => 
    intro fuel rest hf hr
    obtain ⟨fuel, rfl⟩ := Nat.exists_eq_succ_of_ne_zero (show fuel ≠ 0 by omega)
    rfl
  | @bool b =>
    intro fuel rest hf hr
    obtain ⟨fuel, rfl⟩ := Nat.exists_eq_succ_of_ne_zero (show fuel ≠ 0 by omega)
    cases b <;> rfl
  | int hp =>
    exact isReadBack_number (decimal_startsNumber _) fun rest hr => readNumber_decimal hp.1 hr
  | @double x hp =>
    cases x with
    | nan =>
      intro fuel rest hf hr
      obtain ⟨fuel, rfl⟩ := Nat.exists_eq_succ_of_ne_zero (show fuel ≠ 0 by omega)
      rfl
    | infinite negative =>
      intro fuel rest hf hr
      obtain ⟨fuel, rfl⟩ := Nat.exists_eq_succ_of_ne_zero (show fuel ≠ 0 by omega)
      cases negative <;> rfl
    | finite negative steps =>
      exact isReadBack_number (double_startsNumber hp.1) fun rest hr => readNumber_text hp.1 hr
  | @str s hp =>
    intro fuel rest hf hr
    obtain ⟨fuel, rfl⟩ := Nat.exists_eq_succ_of_ne_zero (show fuel ≠ 0 by omega)
    obtain ⟨cs, hcs, hread⟩ := readString_text hp.2 rest
    rw [text, hcs, List.cons_append, readValue, hread]
    rfl
  | arr hp hi ih => exact isReadBack_arr fun v hv => ⟨ih v hv, text_startsValue (hi v hv).here.1⟩
  | obj hp hf ih =>
    refine isReadBack_obj hp.1 fun f hf' => ⟨?_, ih f hf', text_startsValue (hf f hf').here.1⟩
    exact hp.2 f.1 (List.mem_map_of_mem hf')

/-- What was written is read back. -/
theorem read_text {v : Json} (h : v.IsWritable) : Json.read v.text = .ok v := by
  have hstart := text_startsValue h.here.1
  obtain ⟨c, cs, hcs, -, -, hmark⟩ := id hstart
  have hhead : v.text.toList.head? ≠ some '\uFEFF' := by
    rw [hcs]
    simpa using hmark
  have hread := h.isReadBack (2 * v.text.toList.length + 2) [] (by omega) (fun _ h => by cases h)
  rw [List.append_nil] at hread
  unfold Json.read
  simp only [if_neg hhead, hstart.skipSpace, hread]
  rfl

end TaskRules.Json
