import TaskRules.Condition.Path
import TaskRules.Proofs.DigitTexts

/-!
Walks along a path into a payload. A hop goes to a field of an object, or to an item of a list whose
position the segment writes in decimal digits. A walk that cannot make its next hop has strayed, and
straying is no fault. The exception is a garbled position: a segment of digits, met at a list, that
makes no numeral. There the walk stumbles.

Proved:
- `hop_found_iff`, `hop_fails_iff`: one hop, found or failing.
- `walk_found_iff`, `walk_fails_iff`: a walk, by induction on its segments.
- `resolve_found_iff`, `resolve_fails_iff`: a path is resolved to a value exactly when it leads
  there, and fails exactly when it stumbles.
- `segments_joined`, `walk_append`: paths joined by a dot have the segments of both, and a walk
  along both lists of segments is two walks.
- `paths_compose`: so paths that are joined are looked up one after the other.
-/

namespace TaskRules.Condition

/-! ## One hop -/

/-- A hop from a value: to a field by its name, or to an item by the number of its position. -/
inductive Hop : Json → String → Json → Prop
  | field {fields : Json.Fields} {name : String} {w : Json}
      (present : Json.Fields.get? fields name = some w) : Hop (.obj fields) name w
  | item {items : List Json} {segment : String} {n : Nat} {w : Json}
      (position : Numeral.Denotes segment.toList n) (present : items[n]? = some w) :
      Hop (.arr items) segment w

/-- A segment of digits that makes no numeral. -/
def GarbledPosition (segment : String) : Prop :=
  Text.allDigits segment.toList = true ∧ Numeral.Garbled segment.toList

/-- A segment at a list is the position that it writes, garbled, or no position at all. -/
theorem hop_arr (items : List Json) (segment : String) :
    (∃ n, Numeral.Denotes segment.toList n ∧ hop (.arr items) segment = .ok items[n]?) ∨
      (GarbledPosition segment ∧ ∃ fault, hop (.arr items) segment = .error fault) ∨
        Text.allDigits segment.toList = false ∧ hop (.arr items) segment = .ok none := by
  by_cases digits : Text.allDigits segment.toList = true
  · rcases Numeral.integer_cases digits with ⟨-, n, hn, read⟩ | ⟨garbled, fault, read⟩
    · exact .inl ⟨n, hn, by rw [hop, if_pos digits, read]; rfl⟩
    · exact .inr (.inl ⟨⟨digits, garbled⟩, fault, by rw [hop, if_pos digits, read]⟩)
  · exact .inr (.inr ⟨Bool.not_eq_true _ ▸ digits, by rw [hop, if_neg digits]⟩)

/-- Where a hop leads. -/
theorem hop_found_iff {v : Json} {segment : String} {w : Json} :
    hop v segment = .ok (some w) ↔ Hop v segment w := by
  cases v with
  | obj fields =>
    constructor
    · intro h
      exact .field (Except.ok.inj h)
    · rintro ⟨present⟩
      rw [hop, present]
  | arr items =>
    rcases hop_arr items segment with ⟨n, hn, h⟩ | ⟨⟨digits, garbled⟩, fault, h⟩ | ⟨other, h⟩
    · rw [h]
      constructor
      · intro same
        exact .item hn (Except.ok.inj same)
      · rintro (_ | ⟨position, present⟩)
        rw [hn.unique position, present]
    · rw [h]
      constructor
      · intro same
        cases same
      · rintro (_ | ⟨position, -⟩)
        exact absurd garbled (Numeral.denotes_isDigit position).2
    · rw [h]
      constructor
      · intro same
        cases same
      · rintro (_ | ⟨position, -⟩)
        rw [(Numeral.denotes_isDigit position).1] at other
        cases other
  | null | bool | int | double | str =>
    constructor
    · intro h
      cases h
    · intro h
      cases h

/-- When a hop fails: at a list, by a garbled position. -/
theorem hop_fails_iff {v : Json} {segment : String} :
    (∃ fault, hop v segment = .error fault) ↔
      (∃ items, v = .arr items) ∧ GarbledPosition segment := by
  cases v with
  | arr items =>
    rcases hop_arr items segment with ⟨n, hn, h⟩ | ⟨garbled, fault, h⟩ | ⟨other, h⟩
    · rw [h]
      constructor
      · rintro ⟨fault, same⟩
        cases same
      · rintro ⟨-, -, garbled⟩
        exact absurd garbled (Numeral.denotes_isDigit hn).2
    · exact ⟨fun _ => ⟨⟨items, rfl⟩, garbled⟩, fun _ => ⟨fault, h⟩⟩
    · rw [h]
      constructor
      · rintro ⟨fault, same⟩
        cases same
      · rintro ⟨-, digits, -⟩
        rw [digits] at other
        cases other
  | obj | null | bool | int | double | str =>
    constructor
    · rintro ⟨fault, h⟩
      cases h
    · rintro ⟨⟨items, h⟩, -⟩
      cases h

/-! ## Walks -/

/-- A walk along segments. -/
inductive Leads : Json → List String → Json → Prop
  | here (v : Json) : Leads v [] v
  | onward {v w x : Json} {segment : String} {rest : List String} (first : Hop v segment w)
      (walk : Leads w rest x) : Leads v (segment :: rest) x

/-- A walk that stumbles: it leads to a list, and the next segment is a garbled position. -/
def Stumbles (v : Json) (path : List String) : Prop :=
  ∃ before segment after items, path = before ++ segment :: after ∧ Leads v before (.arr items) ∧
    GarbledPosition segment

theorem Stumbles.here {items : List Json} {segment : String} (h : GarbledPosition segment)
    (rest : List String) : Stumbles (.arr items) (segment :: rest) :=
  ⟨[], segment, rest, items, rfl, .here _, h⟩

theorem Stumbles.onward {v w : Json} {segment : String} {rest : List String}
    (first : Hop v segment w) (h : Stumbles w rest) : Stumbles v (segment :: rest) := by
  obtain ⟨before, garbled, after, items, hrest, walk, hgarbled⟩ := h
  exact ⟨segment :: before, garbled, after, items, by rw [hrest]; rfl, .onward first walk, hgarbled⟩

/-- A walk stumbles at its first segment or later on. -/
theorem stumbles_cons_iff {v : Json} {segment : String} {rest : List String} :
    Stumbles v (segment :: rest) ↔
      (∃ items, v = .arr items) ∧ GarbledPosition segment ∨
        ∃ w, Hop v segment w ∧ Stumbles w rest := by
  constructor
  · rintro ⟨before, garbled, after, items, hpath, walk, hgarbled⟩
    cases walk with
    | here =>
      obtain ⟨rfl, rfl⟩ := List.cons.inj hpath
      exact .inl ⟨⟨items, rfl⟩, hgarbled⟩
    | onward first walk =>
      obtain ⟨rfl, rfl⟩ := List.cons.inj hpath
      exact .inr ⟨_, first, _, garbled, after, items, rfl, walk, hgarbled⟩
  · rintro (⟨⟨items, rfl⟩, garbled⟩ | ⟨w, first, later⟩)
    · exact .here garbled rest
    · exact later.onward first

/-- Where a walk leads. -/
theorem walk_found_iff {path : List String} {v w : Json} :
    walk v path = .ok (some w) ↔ Leads v path w := by
  induction path generalizing v with
  | nil =>
    constructor
    · intro h
      obtain rfl := Option.some.inj (Except.ok.inj h)
      exact .here v
    · rintro ⟨⟩
      rfl
  | cons segment rest ih =>
    constructor
    · intro h
      rw [walk] at h
      split at h
      · rename_i next first
        exact .onward (hop_found_iff.mp first) (ih.mp h)
      · cases h
      · cases h
    · rintro (_ | ⟨first, onward⟩)
      rw [walk, hop_found_iff.mpr first]
      exact ih.mpr onward

/-- When a walk fails. -/
theorem walk_fails_iff {path : List String} {v : Json} :
    (∃ fault, walk v path = .error fault) ↔ Stumbles v path := by
  induction path generalizing v with
  | nil =>
    constructor
    · rintro ⟨fault, h⟩
      cases h
    · rintro ⟨before, segment, after, items, hpath, -⟩
      cases before <;> cases hpath
  | cons segment rest ih =>
    rw [stumbles_cons_iff, ← hop_fails_iff]
    constructor
    · rintro ⟨fault, h⟩
      rw [walk] at h
      split at h
      · rename_i next first
        exact .inr ⟨next, hop_found_iff.mp first, ih.mp ⟨fault, h⟩⟩
      · cases h
      · rename_i f first
        exact .inl ⟨f, first⟩
    · rintro (⟨fault, first⟩ | ⟨next, first, later⟩)
      · exact ⟨fault, by rw [walk, first]⟩
      · rw [walk, hop_found_iff.mpr first]
        exact ih.mpr later

/-! ## Paths -/

/-- A path is resolved to a value exactly when it leads there. -/
theorem resolve_found_iff {payload : Json} {path : String} {v : Json} :
    resolve payload path = .ok (some v) ↔ Leads payload (segments path) v :=
  walk_found_iff

/-- A path fails exactly when it stumbles. -/
theorem resolve_fails_iff {payload : Json} {path : String} :
    (∃ fault, resolve payload path = .error fault) ↔ Stumbles payload (segments path) :=
  walk_fails_iff

/-- A path that does not stumble is resolved: to a value or to none. -/
theorem resolve_ok_iff {payload : Json} {path : String} :
    (∃ found, resolve payload path = .ok found) ↔ ¬Stumbles payload (segments path) := by
  rw [← resolve_fails_iff]
  cases h : resolve payload path <;> simp

/-! ## Paths that are joined -/

/-- A text has at least one piece. -/
theorem splitAt_ne_nil (sep : Char) (cs : List Char) : Text.splitAt sep cs ≠ [] := by
  cases cs with
  | nil => simp [Text.splitAt]
  | cons c rest =>
    rw [Text.splitAt]
    split
    · simp
    · split <;> simp

/-- Cutting at a character that stands between two texts cuts each of them. -/
theorem splitAt_between (sep : Char) (before after : List Char) :
    Text.splitAt sep (before ++ sep :: after) =
      Text.splitAt sep before ++ Text.splitAt sep after := by
  induction before with
  | nil => simp [Text.splitAt]
  | cons c rest ih =>
    rw [List.cons_append, Text.splitAt, Text.splitAt, ih]
    by_cases cut : c = sep
    · rw [if_pos cut, if_pos cut, List.cons_append]
    · rw [if_neg cut, if_neg cut]
      cases pieces : Text.splitAt sep rest with
      | nil => exact absurd pieces (splitAt_ne_nil sep rest)
      | cons piece more => rfl

/-- A dot between two paths is no part of any segment. -/
theorem segments_joined (p q : String) : segments (p ++ "." ++ q) = segments p ++ segments q := by
  have texts : (p ++ "." ++ q).toList = p.toList ++ '.' :: q.toList := by
    simp [String.toList_append]
  rw [segments, texts, splitAt_between, List.map_append]
  rfl

/-- A walk along two lists of segments is a walk along the first and, from where it leads, a walk
along the second. -/
theorem walk_append (v : Json) (first second : List String) :
    walk v (first ++ second) =
      match walk v first with
      | .ok (some w) => walk w second
      | .ok none => .ok none
      | .error fault => .error fault := by
  induction first generalizing v with
  | nil => rfl
  | cons segment rest ih =>
    rw [List.cons_append, walk, walk]
    rcases hop v segment with fault | _ | w
    · rfl
    · rfl
    · exact ih w

/-- Looks paths up one after the other, each in what the one before it led to. -/
def resolveAll (v : Json) : List String → Except NumeralFault (Option Json)
  | [] => .ok (some v)
  | path :: rest =>
    match resolve v path with
    | .ok (some w) => resolveAll w rest
    | .ok none => .ok none
    | .error fault => .error fault

theorem resolve_joined (payload : Json) (p q : String) :
    resolve payload (p ++ "." ++ q) =
      match resolve payload p with
      | .ok (some v) => resolve v q
      | .ok none => .ok none
      | .error fault => .error fault := by
  rw [resolve, segments_joined]
  exact walk_append payload (segments p) (segments q)

theorem resolveAll_one (v : Json) (path : String) : resolveAll v [path] = resolve v path := by
  rw [resolveAll]
  rcases resolve v path with fault | _ | w <;> rfl

/-- Two paths that are joined by a dot lead where the second one leads from where the first one
does; they lead nowhere when the first one does not lead anywhere, and fail as the first one fails.
So any number of paths that are joined are looked up one after the other. -/
theorem paths_compose (payload : Json) :
    (∀ p q, resolve payload (p ++ "." ++ q) =
      match resolve payload p with
      | .ok (some v) => resolve v q
      | .ok none => .ok none
      | .error fault => .error fault) ∧
    ∀ p rest, resolve payload (Text.join "." (p :: rest)) = resolveAll payload (p :: rest) := by
  refine ⟨resolve_joined payload, fun p rest => ?_⟩
  induction rest generalizing payload p with
  | nil => exact (resolveAll_one payload p).symm
  | cons q more ih =>
    have joined : Text.join "." (p :: q :: more) = p ++ "." ++ Text.join "." (q :: more) := rfl
    rw [joined, resolve_joined, resolveAll]
    rcases resolve payload p with fault | _ | v
    · rfl
    · rfl
    · exact ih v q

end TaskRules.Condition
