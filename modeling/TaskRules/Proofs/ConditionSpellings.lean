import TaskRules.Proofs.ConditionForms

/-!
The writings of a condition tree. Each node is written on its own: a group by its word under `op`
with its items under `children`, by its word as the key of its items, or, when all items have to
hold, as the bare list of them; a comparison by an alias of its operator, under `op` or, beside
`field`, under `operator`. A node may be wrapped under `if`, any number of times. Keys stand in any
order; a key that would be looked at earlier is missing.

Proved:
- `Alias.names`, `Alias.noGroup`: an alias of an operator names it, and is no group word.
- `Writes.means`: a writing of a tree means the tree, one case for each way to write a node.
- `toJson_writes`: the canonical form is one of the writings.
- `NodeMeans.comparable`: a tree that was read compares only fields that can be compared.
- `writings_agree`: every writing of a tree whose fields can be compared is read as that tree, and
  the canonical form of a tree that was read is read as the same tree.
-/

namespace TaskRules.Condition

/-! ## Aliases -/

/-- An underscore or a hyphen, which spellings leave out. -/
def isFiller (c : Char) : Bool := c == '_' || c == '-'

/-- An alias of an operator: one of its spellings in any case, with underscores and hyphens anywhere
in it and blanks around it. -/
def Alias (op : Operator) (s : String) : Prop :=
  ∃ before letters after, s.toList = before ++ letters ++ after ∧
    (∀ c ∈ before, Text.isBlank c = true) ∧ (∀ c ∈ after, Text.isBlank c = true) ∧
    (String.ofList ((letters.filter (!isFiller ·)).map Char.toLower), op) ∈ Operator.spellings

/-- A letter of a spelling: a character of ASCII that is no blank. -/
def isPlain (c : Char) : Bool := decide (c.toNat < 128) && !Text.isBlank c

theorem spellings_plain :
    (Operator.spellings.all fun p => p.1 != "" && p.1.toList.all isPlain) = true := by
  decide +kernel

theorem spelling_plain {word : List Char} {op : Operator}
    (h : (String.ofList word, op) ∈ Operator.spellings) :
    word ≠ [] ∧ ∀ c ∈ word, c.toNat < 128 ∧ Text.isBlank c = false := by
  have hp := List.all_eq_true.mp spellings_plain _ h
  simp only [Bool.and_eq_true, bne_iff_ne, ne_eq, String.toList_ofList, List.all_eq_true, isPlain,
    decide_eq_true_eq, Bool.not_eq_true'] at hp
  refine ⟨fun hw => hp.1 ?_, hp.2⟩
  rw [hw]

/-- No operator is spelled like a group. -/
theorem spellings_noGroup (g : Group) (op : Operator) : (g.word, op) ∉ Operator.spellings := by
  cases g <;> cases op <;> decide

theorem isFiller_upper : ∀ n < 91, 65 ≤ n →
    isFiller (Char.ofNat n).toLower = false ∧ isFiller (Char.ofNat n) = false := by
  decide

theorem isFiller_toLower (c : Char) : isFiller c.toLower = isFiller c := by
  by_cases hu : 65 ≤ c.toNat ∧ c.toNat ≤ 90
  · obtain ⟨hl, hc⟩ := isFiller_upper c.toNat (by omega) hu.1
    rw [Char.ofNat_toNat] at hl hc
    rw [hl, hc]
  · rw [Text.toLower_other hu]

theorem isPlain_of_isFiller {c : Char} (h : isFiller c = true) :
    c.toNat < 128 ∧ Text.isBlank c = false := by
  simp only [isFiller, Bool.or_eq_true, beq_iff_eq] at h
  rcases h with rfl | rfl <;> exact ⟨by decide, rfl⟩

/-- A character whose lower case is ASCII is ASCII itself. -/
theorem ascii_of_toLower {c : Char} (h : c.toLower.toNat < 128) : c.toNat < 128 := by
  by_cases hu : 65 ≤ c.toNat ∧ c.toNat ≤ 90
  · omega
  · rwa [Text.toLower_other hu] at h

/-- Between its blanks an alias has only letters of ASCII and fillers. -/
theorem letters_plain {letters : List Char}
    (h : ∀ c ∈ (letters.filter (!isFiller ·)).map Char.toLower,
      c.toNat < 128 ∧ Text.isBlank c = false) :
    ∀ c ∈ letters, c.toNat < 128 ∧ Text.isBlank c = false := by
  intro c hc
  by_cases hf : isFiller c = true
  · exact isPlain_of_isFiller hf
  · have hlow := h c.toLower (List.mem_map_of_mem (List.mem_filter.mpr ⟨hc, by simp [hf]⟩))
    exact ⟨ascii_of_toLower hlow.1, Text.isBlank_of_toLower hlow.2⟩

/-- Fillers are left out before or after the change of case. -/
theorem filter_map_toLower (letters : List Char) :
    (letters.map Char.toLower).filter (!isFiller ·) =
      (letters.filter (!isFiller ·)).map Char.toLower := by
  rw [List.filter_map]
  congr 1
  exact List.filter_congr fun c _ => by simp [isFiller_toLower]

/-- What is left of an alias when it is looked up. -/
theorem Alias.trimmed {op : Operator} {s : String} (h : Alias op s) :
    ∃ letters : List Char, letters ≠ [] ∧ (∀ c ∈ letters, c.toNat < 128 ∧ Text.isBlank c = false) ∧
      Text.trim s.toList = letters ∧ (∀ c ∈ letters, c ∈ s.toList) ∧
      (String.ofList ((letters.map Char.toLower).filter (!isFiller ·)), op) ∈
        Operator.spellings := by
  obtain ⟨before, letters, after, hs, hb, ha, hmem⟩ := h
  obtain ⟨hfilled, hplain⟩ := spelling_plain hmem
  have hletters := letters_plain hplain
  refine ⟨letters, ?_, hletters, ?_, fun c hc => ?_, ?_⟩
  · rintro rfl
    exact hfilled rfl
  · rw [hs, Text.trim_around hb (fun c hc => (hletters c hc).2) ha]
  · rw [hs]
    simp [hc]
  · rwa [filter_map_toLower]

theorem Alias.names {op : Operator} {s : String} (h : Alias op s) : Names (.str s) op := by
  obtain ⟨letters, hne, hplain, htrim, hin, hmem⟩ := h.trimmed
  refine ⟨s, rfl, ?_, ?_⟩
  · -- one letter is enough for the text not to be blank
    obtain ⟨c, hc⟩ := List.exists_mem_of_ne_nil letters hne
    rw [Text.blank, List.all_eq_false]
    exact ⟨c, hin c hc, by simp [(hplain c hc).2]⟩
  · rw [spelling, htrim, Text.lower, Text.lowerAfter_ascii fun c hc => (hplain c hc).1]
    exact hmem

theorem Alias.noGroup {op : Operator} {s : String} (h : Alias op s) (g : Group) :
    ¬Text.Spells g.word.toList s := by
  intro hword
  obtain ⟨letters, -, hplain, htrim, -, hmem⟩ := h.trimmed
  have hlow := (lowered_eq_word_iff g s).mpr hword
  rw [htrim, Text.lower, Text.lowerAfter_ascii fun c hc => (hplain c hc).1] at hlow
  have hl : letters.map Char.toLower = g.word.toList := by
    rw [← hlow, String.toList_ofList]
  have hfill : g.word.toList.filter (!isFiller ·) = g.word.toList := by cases g <;> rfl
  rw [hl, hfill, String.ofList_toList] at hmem
  exact spellings_noGroup g op hmem

theorem name_alias (op : Operator) : Alias op op.name := by
  refine ⟨[], op.name.toList, [], by simp, by simp, by simp, ?_⟩
  cases op <;> decide

/-! ## The writings -/

/-- The keys that are looked at before the word of a group. -/
def Group.earlier : Group → List String
  | .all => ["if", "op", "field"]
  | .any => ["if", "op", "field", "and"]

/-- An object carries a comparison's field, value and candidates; what is missing is null. -/
structure Carries (fields : Json.Fields) (l : Leaf) : Prop where
  field : fieldOf fields "field" = .str l.field
  value : fieldOf fields "value" = l.value
  candidates : fieldOf fields "values" = Json.ofOption .arr l.candidates

mutual
/-- The ways to write a tree. -/
inductive Writes : Json → Tree → Prop
  | wrapped {fields : Json.Fields} {v : Json} {t : Tree} (decides : Decides fields [] "if" v)
      (inner : Writes v t) : Writes (.obj fields) t
  | named {fields : Json.Fields} {s : String} {g : Group} {items : List Json} {ts : List Tree}
      (decides : Decides fields ["if"] "op" (.str s)) (word : Text.Spells g.word.toList s)
      (listed : Json.Fields.get? fields "children" = some (.arr items))
      (children : WritesAll items ts) : Writes (.obj fields) (g.of ts)
  | keyed {fields : Json.Fields} {g : Group} {items : List Json} {ts : List Tree}
      (decides : Decides fields g.earlier g.word (.arr items)) (children : WritesAll items ts) :
      Writes (.obj fields) (g.of ts)
  | bare {items : List Json} {ts : List Tree} (children : WritesAll items ts) :
      Writes (.arr items) (.all ts)
  | byOp {fields : Json.Fields} {s : String} {l : Leaf}
      (decides : Decides fields ["if"] "op" (.str s)) (names : Alias l.operator s)
      (carries : Carries fields l) : Writes (.obj fields) (.leaf l)
  | byField {fields : Json.Fields} {s : String} {l : Leaf}
      (decides : Decides fields ["if", "op"] "field" (.str l.field))
      (given : Json.Fields.get? fields "operator" = some (.str s)) (names : Alias l.operator s)
      (carries : Carries fields l) : Writes (.obj fields) (.leaf l)

inductive WritesAll : List Json → List Tree → Prop
  | nil : WritesAll [] []
  | cons {v : Json} {rest : List Json} {t : Tree} {ts : List Tree} (first : Writes v t)
      (others : WritesAll rest ts) : WritesAll (v :: rest) (t :: ts)
end

mutual
/-- The leaves of a tree compare fields whose names are not empty and have no lone half. -/
def Tree.Comparable : Tree → Prop
  | .leaf l => l.field ≠ "" ∧ Text.isWhole l.field.toList = true
  | .all children => AllComparable children
  | .any children => AllComparable children

def AllComparable : List Tree → Prop
  | [] => True
  | t :: rest => t.Comparable ∧ AllComparable rest
end

theorem comparable_of (g : Group) (ts : List Tree) : (g.of ts).Comparable ↔ AllComparable ts := by
  cases g <;> exact Iff.rfl

theorem candidates_ofOption (items : Option (List Json)) :
    Candidates (Json.ofOption .arr items) items := by
  cases items with
  | none => exact .absent
  | some items => exact .list items

theorem Carries.compares {fields : Json.Fields} {l : Leaf} (h : Carries fields l)
    (hl : (Tree.leaf l).Comparable) :
    Compares l.operator (.str l.field) (fieldOf fields "value") (fieldOf fields "values")
      (.leaf l) := by
  rw [h.value, h.candidates]
  exact .leaf hl.1 hl.2 (candidates_ofOption l.candidates)

/-! ## Every writing means its tree -/

mutual
/-- By the way the node is written; the nodes below are writings themselves. -/
theorem Writes.means : ∀ {v : Json} {t : Tree}, Writes v t → t.Comparable → NodeMeans v t
  | _, _, .wrapped decides inner, ht => .wrapper decides (inner.means ht)
  | _, _, .named (g := g) decides word listed children, ht =>
    .group decides word (.list listed) (children.means ((comparable_of g _).mp ht))
  | _, _, .keyed (g := .all) decides children, ht => .conjunction decides (children.means ht)
  | _, _, .keyed (g := .any) decides children, ht => .disjunction decides (children.means ht)
  | _, _, .bare children, ht => .list (children.means ht)
  | _, _, .byOp decides names carries, ht =>
    .comparison decides (fun _ g hs => Json.str.inj hs ▸ names.noGroup g) names.names
      (carries.field ▸ carries.compares ht)
  | _, _, .byField decides given names carries, ht =>
    .fieldComparison decides (.named given names.names) (carries.compares ht)

theorem WritesAll.means : ∀ {vs : List Json} {ts : List Tree},
    WritesAll vs ts → AllComparable ts → NodesMean vs ts
  | _, _, .nil, _ => .nil
  | _, _, .cons first others, ht => .cons (first.means ht.1) (others.means ht.2)
end

/-! ## The canonical form -/

mutual
theorem toJson_writes : ∀ t : Tree, Writes t.toJson t
  | .leaf l => by
    rw [Tree.toJson]
    exact .byOp ⟨by simp [Json.Fields.get?], rfl⟩ (name_alias l.operator) ⟨rfl, rfl, rfl⟩
  | .all children => by
    rw [Tree.toJson]
    exact .named (g := .all) ⟨by simp [Json.Fields.get?], rfl⟩
      ⟨[], ['a', 'n', 'd'], [], rfl, by simp, by simp, rfl⟩ rfl (toJsonItems_writes children)
  | .any children => by
    rw [Tree.toJson]
    exact .named (g := .any) ⟨by simp [Json.Fields.get?], rfl⟩
      ⟨[], ['o', 'r'], [], rfl, by simp, by simp, rfl⟩ rfl (toJsonItems_writes children)

theorem toJsonItems_writes : ∀ ts : List Tree, WritesAll (toJsonItems ts) ts
  | [] => by rw [toJsonItems]; exact .nil
  | t :: rest => by rw [toJsonItems]; exact .cons (toJson_writes t) (toJsonItems_writes rest)
end

/-! ## What was read can be compared -/

theorem Compares.comparable {op : Operator} {field value candidates : Json} {t : Tree}
    (h : Compares op field value candidates t) : t.Comparable := by
  cases h with
  | leaf filled whole _ => exact ⟨filled, whole⟩

theorem Requires.comparable {field : String} {v : Json} {t : Tree} (h : Requires field v t) :
    t.Comparable := by
  cases h with
  | keyed _ _ _ compares => exact compares.comparable
  | equal _ compares => exact compares.comparable

theorem RequiresAll.comparable {fields : Json.Fields} {ts : List Tree} (h : RequiresAll fields ts) :
    AllComparable ts := by
  induction h with
  | nil => trivial
  | passed _ ih => exact ih
  | field _ requires _ ih => exact ⟨requires.comparable, ih⟩

mutual
theorem NodeMeans.comparable : ∀ {v : Json} {t : Tree}, NodeMeans v t → t.Comparable
  | _, _, .list children => children.comparable
  | _, _, .wrapper _ inner => inner.comparable
  | _, _, .group (g := g) _ _ _ children => (comparable_of g _).mpr children.comparable
  | _, _, .comparison _ _ _ compares => compares.comparable
  | _, _, .fieldComparison _ _ compares => compares.comparable
  | _, _, .conjunction _ children => children.comparable
  | _, _, .disjunction _ children => children.comparable
  | _, _, .map _ requires => requires.comparable

theorem NodesMean.comparable : ∀ {vs : List Json} {ts : List Tree},
    NodesMean vs ts → AllComparable ts
  | _, _, .nil => trivial
  | _, _, .cons first others => ⟨first.comparable, others.comparable⟩
end

theorem Means.comparable {v : Json} {t : Tree} (h : Means v t) : t.Comparable := by
  cases h with
  | null | emptyList | emptyObject => trivial
  | node inner => exact inner.comparable

/-! ## All writings are read alike -/

theorem parse_of_writes {v : Json} {t : Tree} (ht : t.Comparable) (h : Writes v t) :
    parse v = .ok t :=
  parse_eq_ok_iff.mpr (.node (h.means ht))

/-- Every writing of a tree whose fields can be compared is read as that tree; the canonical form of
a tree that was read is read as the same tree. -/
theorem writings_agree (t : Tree) :
    (t.Comparable → ∀ v, Writes v t → parse v = .ok t) ∧
      ∀ v, parse v = .ok t → parse t.toJson = .ok t := by
  refine ⟨fun ht v => parse_of_writes ht, fun v hv => ?_⟩
  exact parse_of_writes (parse_eq_ok_iff.mp hv).comparable (toJson_writes t)

/-- A task in review or urgent. -/
def reviewOrUrgent : Tree :=
  .any [.all [.leaf ⟨.startsWith, "task.status", .str "review", none⟩],
    .leaf ⟨.isIn, "task.priority", .null, some [.str "urgent"]⟩]

/-- The same in other words: wrapped, the group in capitals between blanks, the inner group a bare
list. -/
def reviewOrUrgentJson : Json :=
  .obj [("if", .obj [("children", .arr [
      .arr [.obj [("field", .str "task.status"), ("operator", .str "Starts-With"),
        ("value", .str "review")]],
      .obj [("values", .arr [.str "urgent"]), ("op", .str " _IN"),
        ("field", .str "task.priority")]]),
    ("op", .str " OR ")])]

theorem reviewOrUrgent_written : Writes reviewOrUrgentJson reviewOrUrgent := by
  have blank : ∀ c ∈ [' '], Text.isBlank c = true := by
    simp only [List.mem_singleton, forall_eq]
    rfl
  refine .wrapped ⟨by simp, rfl⟩ (.named (g := .any) ⟨by simp [Json.Fields.get?], rfl⟩
    ⟨[' '], ['O', 'R'], [' '], rfl, blank, blank, by decide⟩ rfl
    (.cons (.bare (.cons ?_ .nil)) (.cons ?_ .nil)))
  · exact .byField ⟨by simp [Json.Fields.get?], rfl⟩ rfl
      ⟨[], "Starts-With".toList, [], rfl, by simp, by simp, by decide⟩ ⟨rfl, rfl, rfl⟩
  · exact .byOp ⟨by simp [Json.Fields.get?], rfl⟩
      ⟨[' '], "_IN".toList, [], rfl, blank, by simp, by decide⟩ ⟨rfl, rfl, rfl⟩

theorem writings_agree_review :
    reviewOrUrgent.Comparable ∧ Writes reviewOrUrgentJson reviewOrUrgent ∧
      parse reviewOrUrgentJson = .ok reviewOrUrgent ∧
      parse reviewOrUrgent.toJson = .ok reviewOrUrgent := by
  have ht : reviewOrUrgent.Comparable :=
    ⟨⟨⟨by decide, by decide⟩, trivial⟩, ⟨by decide, by decide⟩, trivial⟩
  have hread := (writings_agree reviewOrUrgent).1 ht _ reviewOrUrgent_written
  exact ⟨ht, reviewOrUrgent_written, hread, (writings_agree reviewOrUrgent).2 _ hread⟩

/-- A field of one lone half is not empty, and yet the canonical form of its comparison is
refused. -/
theorem lone_half_is_no_field :
    let l : Leaf := ⟨.equals, String.ofList (Text.ofPoint 0xD800), .int 1, none⟩
    l.field ≠ "" ∧ Writes (Tree.leaf l).toJson (.leaf l) ∧
      ¬parse (Tree.leaf l).toJson = .ok (.leaf l) := by
  refine ⟨by decide, toJson_writes _, fun h => ?_⟩
  have hwhole : Text.isWhole (String.ofList (Text.ofPoint 0xD800)).toList = true :=
    (parse_eq_ok_iff.mp h).comparable.2
  exact absurd hwhole (by decide)

end TaskRules.Condition
