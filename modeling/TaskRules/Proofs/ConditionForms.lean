import TaskRules.Condition.Grammar
import TaskRules.Proofs.Words

/-!
The grammar of conditions, apart from the reader: which values are a condition and which tree each
of them means. An object's first deciding key is looked for in the order `if`, `op`, `field`, `and`,
`or`; the rules of the later keys ask for the earlier ones to be missing. A leaf compares a field
whose name is a text with at least one character and no lone half, and its candidates are a list or
absent.

Proved:
- `operator_eq_ok_iff`, `group?_eq_some_iff`, `leaf_eq_ok_iff`, `requirement_eq_ok_iff`: the parts
  of the reader accept exactly the parts of the grammar.
- `node_eq_ok_iff`: below the top the reader gives a tree exactly when the value means it.
- `parse_reads_the_grammar`: so it does at the top, and any other value is refused as no condition.
- `means_unique`: no value has two meanings.
-/

namespace TaskRules.Condition

/-! ## The grammar -/

/-- The operator a value names: a text that is not blank and whose spelling is one of the
operator's. -/
def Names (raw : Json) (op : Operator) : Prop :=
  ∃ s, raw = .str s ∧ Text.blank s = false ∧ (spelling s, op) ∈ Operator.spellings

/-- The candidates of a comparison. -/
inductive Candidates : Json → Option (List Json) → Prop
  | absent : Candidates .null none
  | list (items : List Json) : Candidates (.arr items) (some items)

/-- What a comparison means: a leaf on the field of that name. -/
inductive Compares (op : Operator) : (field value candidates : Json) → Tree → Prop
  | leaf {s : String} {value candidates : Json} {items : Option (List Json)} (filled : s ≠ "")
      (whole : Text.isWhole s.toList = true) (given : Candidates candidates items) :
      Compares op (.str s) value candidates (.leaf ⟨op, s, value, items⟩)

/-- What a map requires of one field. -/
inductive Requires (field : String) : Json → Tree → Prop
  /-- The first of the keys of `mapOperators` that the object has counts. -/
  | keyed {keys : Json.Fields} {earlier later : List (String × Operator)} {key : String}
      {op : Operator} {value : Json} {t : Tree}
      (order : mapOperators = earlier ++ (key, op) :: later)
      (first : ∀ p ∈ earlier, Json.Fields.get? keys p.1 = none)
      (present : Json.Fields.get? keys key = some value)
      (compares : Compares op (.str field) value .null t) : Requires field (.obj keys) t
  | equal {value : Json} {t : Tree} (plain : ∀ keys, value ≠ .obj keys)
      (compares : Compares .equals (.str field) value .null t) : Requires field value t

/-- What a map from fields requires, in the order of its keys; `then` is no field. -/
inductive RequiresAll : Json.Fields → List Tree → Prop
  | nil : RequiresAll [] []
  | passed {value : Json} {rest : Json.Fields} {ts : List Tree} (others : RequiresAll rest ts) :
      RequiresAll (("then", value) :: rest) ts
  | field {name : String} {value : Json} {rest : Json.Fields} {t : Tree} {ts : List Tree}
      (other : name ≠ "then") (requires : Requires name value t)
      (others : RequiresAll rest ts) : RequiresAll ((name, value) :: rest) (t :: ts)

/-- The word that names a kind of group. -/
def Group.word : Group → String
  | .all => "and"
  | .any => "or"

/-- The operator of an object with `field`: under `operator`, or equality when that is missing or
null. -/
inductive FieldOperator (fields : Json.Fields) : Operator → Prop
  | missing (h : Json.Fields.get? fields "operator" = none) : FieldOperator fields .equals
  | null (h : Json.Fields.get? fields "operator" = some .null) : FieldOperator fields .equals
  | named {raw : Json} {op : Operator} (h : Json.Fields.get? fields "operator" = some raw)
      (names : Names raw op) : FieldOperator fields op

/-- The items under a key of an object: those of a list, or none when the key is missing. -/
inductive ItemsUnder (fields : Json.Fields) (key : String) : List Json → Prop
  | missing (h : Json.Fields.get? fields key = none) : ItemsUnder fields key []
  | list {items : List Json} (h : Json.Fields.get? fields key = some (.arr items)) :
      ItemsUnder fields key items

/-- The key of an object that is looked at, all keys before it being missing. -/
def Decides (fields : Json.Fields) (earlier : List String) (key : String) (value : Json) : Prop :=
  (∀ k ∈ earlier, Json.Fields.get? fields k = none) ∧ Json.Fields.get? fields key = some value

mutual
/-- The trees that values below the top mean. -/
inductive NodeMeans : Json → Tree → Prop
  | list {items : List Json} {ts : List Tree} (children : NodesMean items ts) :
      NodeMeans (.arr items) (.all ts)
  | wrapper {fields : Json.Fields} {value : Json} {t : Tree}
      (decides : Decides fields [] "if" value) (inner : NodeMeans value t) :
      NodeMeans (.obj fields) t
  | group {fields : Json.Fields} {s : String} {g : Group} {items : List Json} {ts : List Tree}
      (decides : Decides fields ["if"] "op" (.str s)) (word : Text.Spells g.word.toList s)
      (listed : ItemsUnder fields "children" items) (children : NodesMean items ts) :
      NodeMeans (.obj fields) (g.of ts)
  | comparison {fields : Json.Fields} {raw : Json} {op : Operator} {t : Tree}
      (decides : Decides fields ["if"] "op" raw)
      (noGroup : ∀ s (g : Group), raw = .str s → ¬Text.Spells g.word.toList s)
      (names : Names raw op)
      (compares : Compares op (fieldOf fields "field") (fieldOf fields "value")
        (fieldOf fields "values") t) : NodeMeans (.obj fields) t
  | fieldComparison {fields : Json.Fields} {field : Json} {op : Operator} {t : Tree}
      (decides : Decides fields ["if", "op"] "field" field) (operator : FieldOperator fields op)
      (compares : Compares op field (fieldOf fields "value") (fieldOf fields "values") t) :
      NodeMeans (.obj fields) t
  | conjunction {fields : Json.Fields} {items : List Json} {ts : List Tree}
      (decides : Decides fields ["if", "op", "field"] "and" (.arr items))
      (children : NodesMean items ts) : NodeMeans (.obj fields) (.all ts)
  | disjunction {fields : Json.Fields} {items : List Json} {ts : List Tree}
      (decides : Decides fields ["if", "op", "field", "and"] "or" (.arr items))
      (children : NodesMean items ts) : NodeMeans (.obj fields) (.any ts)
  | map {fields : Json.Fields} {ts : List Tree}
      (undecided : ∀ k ∈ ["if", "op", "field", "and", "or"], Json.Fields.get? fields k = none)
      (requires : RequiresAll fields ts) : NodeMeans (.obj fields) (.all ts)

inductive NodesMean : List Json → List Tree → Prop
  | nil : NodesMean [] []
  | cons {v : Json} {rest : List Json} {t : Tree} {ts : List Tree} (first : NodeMeans v t)
      (others : NodesMean rest ts) : NodesMean (v :: rest) (t :: ts)
end

/-- The trees that conditions mean. Null, only at the top, and the empty containers always hold. -/
inductive Means : Json → Tree → Prop
  | null : Means .null (.all [])
  | emptyList : Means (.arr []) (.all [])
  | emptyObject : Means (.obj []) (.all [])
  | node {v : Json} {t : Tree} (inner : NodeMeans v t) : Means v t

/-! ## Operators, groups and leaves -/

theorem lookup_eq_some_iff {entries : List (String × Operator)}
    (distinct : (entries.map (·.1)).Nodup) {s : String} {op : Operator} :
    lookup s entries = some op ↔ (s, op) ∈ entries := by
  induction entries with
  | nil => simp [lookup]
  | cons entry rest ih =>
    obtain ⟨k, o⟩ := entry
    rw [List.map_cons, List.nodup_cons] at distinct
    obtain ⟨hk, hrest⟩ := distinct
    rw [lookup, List.mem_cons, Prod.mk.injEq]
    split
    · rename_i hks
      subst hks
      have hno : (k, op) ∉ rest := fun hm => hk (List.mem_map.mpr ⟨_, hm, rfl⟩)
      simp [hno, eq_comm]
    · rename_i hks
      rw [ih hrest]
      simp [Ne.symm hks]

theorem spellings_distinct : (Operator.spellings.map (·.1)).Nodup := by decide

theorem operator_eq_ok_iff {raw : Json} {op : Operator} :
    operator raw = .ok op ↔ Names raw op := by
  cases raw with
  | str s =>
    simp only [operator, Names, Json.str.injEq]
    constructor
    · intro h
      split at h
      · cases h
      rename_i hb
      split at h
      · rename_i found hf
        cases h
        exact ⟨s, rfl, by simpa using hb, (lookup_eq_some_iff spellings_distinct).mp hf⟩
      · cases h
    · rintro ⟨_, rfl, hb, hm⟩
      rw [(lookup_eq_some_iff spellings_distinct).mpr hm]
      simp [hb]
  | _ => simp [operator, Names]

/-- Both group words are made of letters that only ASCII letters become in lower case. -/
theorem lowered_eq_word_iff (g : Group) (s : String) :
    String.ofList (Text.lower (Text.trim s.toList)) = g.word ↔ Text.Spells g.word.toList s := by
  have hplain : Text.IsPlainWord g.word.toList := by cases g <;> decide
  have hall : g.word.toList.all (!Text.isBlank ·) = true := by cases g <;> rfl
  have hfilled : ∀ x ∈ g.word.toList, Text.isBlank x = false := by simpa using hall
  rw [← Text.lower_trim_eq_iff hplain hfilled, ← String.toList_inj, String.toList_ofList]

theorem group?_eq_some_iff {raw : Json} {g : Group} :
    group? raw = some g ↔ ∃ s, raw = .str s ∧ Text.Spells g.word.toList s := by
  cases raw with
  | str s =>
    have hword : group? (.str s) = some g ↔
        String.ofList (Text.lower (Text.trim s.toList)) = g.word := by
      simp only [group?]
      split
      · rename_i h; rw [h]; cases g <;> simp [Group.word]
      · rename_i h; rw [h]; cases g <;> simp [Group.word]
      · rename_i h1 h2
        cases g
        · simpa [Group.word] using h1
        · simpa [Group.word] using h2
    rw [hword, lowered_eq_word_iff]
    exact ⟨fun h => ⟨s, rfl, h⟩, fun ⟨_, hs, h⟩ => Json.str.inj hs ▸ h⟩
  | _ => simp [group?]

theorem group?_eq_none_iff {raw : Json} :
    group? raw = none ↔ ∀ s (g : Group), raw = .str s → ¬Text.Spells g.word.toList s := by
  rw [Option.eq_none_iff_forall_ne_some]
  constructor
  · intro h s g hs hw
    exact h g (group?_eq_some_iff.mpr ⟨s, hs, hw⟩)
  · intro h g hg
    obtain ⟨s, hs, hw⟩ := group?_eq_some_iff.mp hg
    exact h s g hs hw

theorem leaf_eq_ok_iff {op : Operator} {field value candidates : Json} {t : Tree} :
    leaf op field value candidates = .ok t ↔ Compares op field value candidates t := by
  cases field with
  | str s =>
    simp only [leaf]
    constructor
    · intro h
      split at h
      · cases h
      rename_i hs
      split at h
      · cases h
      rename_i hw
      have hw : Text.isWhole s.toList = true := by simpa using hw
      split at h
      · cases h; exact .leaf hs hw .absent
      · cases h; exact .leaf hs hw (.list _)
      · cases h
    · rintro ⟨hs, hw, given⟩
      cases given <;> simp [hs, hw]
  | _ => exact ⟨fun h => (by cases h), fun h => (by cases h)⟩

theorem requirement_eq_ok_iff {field : String} {expected : Json} {t : Tree} :
    requirement field expected = .ok t ↔ Requires field expected t := by
  constructor
  · intro h
    cases expected with
    | obj keys =>
      simp only [requirement] at h
      split at h
      · rename_i op value hf
        obtain ⟨earlier, ⟨key, op'⟩, later, horder, hp, hearlier⟩ :=
          List.findSome?_eq_some_iff.mp hf
        simp only [Option.map_eq_some_iff, Prod.mk.injEq] at hp
        obtain ⟨v, hv, rfl, rfl⟩ := hp
        refine .keyed horder (fun p hp => ?_) hv (leaf_eq_ok_iff.mp h)
        simpa using hearlier p hp
      · cases h
    | _ => exact .equal (fun _ => Json.noConfusion) (leaf_eq_ok_iff.mp h)
  · intro h
    cases h with
    | @keyed keys earlier later key op value t order first present compares =>
      have hf : (mapOperators.findSome? fun p => (Json.Fields.get? keys p.1).map (p.2, ·)) =
          some (op, value) :=
        List.findSome?_eq_some_iff.mpr
          ⟨earlier, (key, op), later, order, by simp [present], fun p hp => by simp [first p hp]⟩
      simp only [requirement, hf]
      exact leaf_eq_ok_iff.mpr compares
    | equal plain compares =>
      cases expected with
      | obj keys => exact absurd rfl (plain keys)
      | _ => exact leaf_eq_ok_iff.mpr compares

/-- Without a key `if`, of which the reader takes no notice either, the fields of a map are all but
`then`. -/
theorem requirements_eq_ok_iff {fields : Json.Fields} {ts : List Tree}
    (hif : Json.Fields.get? fields "if" = none) :
    requirements fields = .ok ts ↔ RequiresAll fields ts := by
  induction fields generalizing ts with
  | nil =>
    rw [requirements]
    constructor
    · intro h; cases h; exact .nil
    · intro h; cases h; rfl
  | cons entry rest ih =>
    obtain ⟨name, value⟩ := entry
    rw [Json.Fields.get?] at hif
    split at hif
    · cases hif
    rename_i hname
    rw [requirements]
    constructor
    · intro h
      split at h
      · rename_i hskip
        rcases hskip with rfl | rfl
        · exact absurd rfl hname
        · exact .passed ((ih hif).mp h)
      · rename_i hkeep
        cases hfirst : requirement name value with
        | error e => rw [hfirst] at h; cases h
        | ok t =>
          cases hothers : requirements rest with
          | error e => rw [hfirst, hothers] at h; cases h
          | ok ts' =>
            rw [hfirst, hothers] at h
            cases h
            exact .field (fun hthen => hkeep (.inr hthen)) (requirement_eq_ok_iff.mp hfirst)
              ((ih hif).mp hothers)
    · intro h
      cases h with
      | passed others => rw [if_pos (.inr rfl)]; exact (ih hif).mpr others
      | field other requires others =>
        rw [if_neg (by simp [hname, other]), requirement_eq_ok_iff.mpr requires,
          (ih hif).mpr others]
        rfl

/-! ## The reader and the grammar -/

theorem comparisonOperator_op {fields : Json.Fields} {raw : Json} {op : Operator}
    (hop : Json.Fields.get? fields "op" = some raw) :
    comparisonOperator fields = .ok op ↔ Names raw op := by
  simp only [comparisonOperator, hop]
  exact operator_eq_ok_iff

theorem comparisonOperator_field {fields : Json.Fields} {op : Operator}
    (hop : Json.Fields.get? fields "op" = none) :
    comparisonOperator fields = .ok op ↔ FieldOperator fields op := by
  simp only [comparisonOperator, hop, fieldOf]
  constructor
  · intro h
    cases ho : Json.Fields.get? fields "operator" with
    | none =>
      simp only [ho, Option.getD_none] at h
      cases h
      exact .missing ho
    | some raw =>
      simp only [ho, Option.getD_some] at h
      split at h
      · cases h; exact .null ho
      · exact .named ho (operator_eq_ok_iff.mp h)
  · intro h
    cases h with
    | missing ho => simp [ho]
    | null ho => simp [ho]
    | @named raw _ ho names =>
      have hn : raw ≠ .null := by
        rintro rfl
        obtain ⟨s, hs, _⟩ := names
        cases hs
      simp only [ho, Option.getD_some]
      exact operator_eq_ok_iff.mpr names

theorem Decides.clash {fields : Json.Fields} {earlier : List String} {key k : String}
    {value v : Json} (h : Decides fields earlier key value) (hk : k ∈ earlier)
    (hv : Json.Fields.get? fields k = some v) : False := by
  have := h.1 k hk
  rw [hv] at this
  cases this

theorem undecided_clash {fields : Json.Fields} {keys : List String} {k : String} {v : Json}
    (h : ∀ k ∈ keys, Json.Fields.get? fields k = none) (hk : k ∈ keys)
    (hv : Json.Fields.get? fields k = some v) : False := by
  have := h k hk
  rw [hv] at this
  cases this

/-! What an object means by its first deciding key. -/

theorem means_if {fields : Json.Fields} {v : Json} {t : Tree}
    (hif : Json.Fields.get? fields "if" = some v) : NodeMeans (.obj fields) t ↔ NodeMeans v t := by
  constructor
  · intro h
    cases h with
    | wrapper decides inner =>
      have := decides.2
      rw [hif] at this
      cases this
      exact inner
    | group decides | comparison decides | fieldComparison decides | conjunction decides
    | disjunction decides => exact (decides.clash (by simp) hif).elim
    | map undecided => exact (undecided_clash undecided (by simp) hif).elim
  · exact fun h => .wrapper ⟨by simp, hif⟩ h

theorem means_group {fields : Json.Fields} {raw : Json} {g : Group} {t : Tree}
    (hif : Json.Fields.get? fields "if" = none) (hop : Json.Fields.get? fields "op" = some raw)
    (hg : group? raw = some g) :
    NodeMeans (.obj fields) t ↔
      ∃ items ts, ItemsUnder fields "children" items ∧ NodesMean items ts ∧ t = g.of ts := by
  constructor
  · intro h
    cases h with
    | wrapper decides => rw [decides.2] at hif; cases hif
    | @group _ s g' items ts decides word listed children =>
      have := decides.2
      rw [hop] at this
      cases this
      have hg' := group?_eq_some_iff.mpr ⟨s, rfl, word⟩
      rw [hg] at hg'
      cases hg'
      exact ⟨items, ts, listed, children, rfl⟩
    | comparison decides noGroup =>
      have := decides.2
      rw [hop] at this
      cases this
      rw [group?_eq_none_iff.mpr noGroup] at hg
      cases hg
    | fieldComparison decides | conjunction decides | disjunction decides =>
      exact (decides.clash (by simp) hop).elim
    | map undecided => exact (undecided_clash undecided (by simp) hop).elim
  · rintro ⟨items, ts, listed, children, rfl⟩
    obtain ⟨s, rfl, word⟩ := group?_eq_some_iff.mp hg
    exact .group ⟨by simpa using hif, hop⟩ word listed children

theorem means_comparison {fields : Json.Fields} {raw : Json} {t : Tree}
    (hif : Json.Fields.get? fields "if" = none) (hop : Json.Fields.get? fields "op" = some raw)
    (hg : group? raw = none) :
    NodeMeans (.obj fields) t ↔
      ∃ op, Names raw op ∧ Compares op (fieldOf fields "field") (fieldOf fields "value")
        (fieldOf fields "values") t := by
  constructor
  · intro h
    cases h with
    | wrapper decides => rw [decides.2] at hif; cases hif
    | group decides word =>
      have := decides.2
      rw [hop] at this
      cases this
      exact absurd word (group?_eq_none_iff.mp hg _ _ rfl)
    | @comparison _ raw' op _ decides _ names compares =>
      have := decides.2
      rw [hop] at this
      cases this
      exact ⟨op, names, compares⟩
    | fieldComparison decides | conjunction decides | disjunction decides =>
      exact (decides.clash (by simp) hop).elim
    | map undecided => exact (undecided_clash undecided (by simp) hop).elim
  · rintro ⟨op, names, compares⟩
    exact .comparison ⟨by simpa using hif, hop⟩ (group?_eq_none_iff.mp hg) names compares

theorem means_field {fields : Json.Fields} {field : Json} {t : Tree}
    (hif : Json.Fields.get? fields "if" = none) (hop : Json.Fields.get? fields "op" = none)
    (hfield : Json.Fields.get? fields "field" = some field) :
    NodeMeans (.obj fields) t ↔
      ∃ op, FieldOperator fields op ∧
        Compares op field (fieldOf fields "value") (fieldOf fields "values") t := by
  constructor
  · intro h
    cases h with
    | wrapper decides => rw [decides.2] at hif; cases hif
    | group decides | comparison decides => rw [decides.2] at hop; cases hop
    | @fieldComparison _ field' op _ decides operator compares =>
      have := decides.2
      rw [hfield] at this
      cases this
      exact ⟨op, operator, compares⟩
    | conjunction decides | disjunction decides => exact (decides.clash (by simp) hfield).elim
    | map undecided => exact (undecided_clash undecided (by simp) hfield).elim
  · rintro ⟨op, operator, compares⟩
    exact .fieldComparison ⟨by simp [hif, hop], hfield⟩ operator compares

theorem means_and {fields : Json.Fields} {v : Json} {t : Tree}
    (hif : Json.Fields.get? fields "if" = none) (hop : Json.Fields.get? fields "op" = none)
    (hfield : Json.Fields.get? fields "field" = none)
    (hand : Json.Fields.get? fields "and" = some v) :
    NodeMeans (.obj fields) t ↔ ∃ items ts, v = .arr items ∧ NodesMean items ts ∧ t = .all ts := by
  constructor
  · intro h
    cases h with
    | wrapper decides => rw [decides.2] at hif; cases hif
    | group decides | comparison decides => rw [decides.2] at hop; cases hop
    | fieldComparison decides => rw [decides.2] at hfield; cases hfield
    | @conjunction _ items ts decides children =>
      have := decides.2
      rw [hand] at this
      cases this
      exact ⟨items, ts, rfl, children, rfl⟩
    | disjunction decides => exact (decides.clash (by simp) hand).elim
    | map undecided => exact (undecided_clash undecided (by simp) hand).elim
  · rintro ⟨items, ts, rfl, children, rfl⟩
    exact .conjunction ⟨by simp [hif, hop, hfield], hand⟩ children

theorem means_or {fields : Json.Fields} {v : Json} {t : Tree}
    (hif : Json.Fields.get? fields "if" = none) (hop : Json.Fields.get? fields "op" = none)
    (hfield : Json.Fields.get? fields "field" = none)
    (hand : Json.Fields.get? fields "and" = none) (hor : Json.Fields.get? fields "or" = some v) :
    NodeMeans (.obj fields) t ↔ ∃ items ts, v = .arr items ∧ NodesMean items ts ∧ t = .any ts := by
  constructor
  · intro h
    cases h with
    | wrapper decides => rw [decides.2] at hif; cases hif
    | group decides | comparison decides => rw [decides.2] at hop; cases hop
    | fieldComparison decides => rw [decides.2] at hfield; cases hfield
    | conjunction decides => rw [decides.2] at hand; cases hand
    | @disjunction _ items ts decides children =>
      have := decides.2
      rw [hor] at this
      cases this
      exact ⟨items, ts, rfl, children, rfl⟩
    | map undecided => exact (undecided_clash undecided (by simp) hor).elim
  · rintro ⟨items, ts, rfl, children, rfl⟩
    exact .disjunction ⟨by simp [hif, hop, hfield, hand], hor⟩ children

theorem means_map {fields : Json.Fields} {t : Tree}
    (undecided : ∀ k ∈ ["if", "op", "field", "and", "or"], Json.Fields.get? fields k = none) :
    NodeMeans (.obj fields) t ↔ ∃ ts, RequiresAll fields ts ∧ t = .all ts := by
  constructor
  · intro h
    cases h with
    | wrapper decides | group decides | comparison decides | fieldComparison decides
    | conjunction decides | disjunction decides =>
      exact (undecided_clash undecided (by simp) decides.2).elim
    | @map _ ts _ requires => exact ⟨ts, requires, rfl⟩
  · rintro ⟨ts, requires, rfl⟩
    exact .map undecided requires

/-! The two sides recurse alike: over a value, a list of values, and the fields of an object. -/

theorem itemsUnder_some {fields : Json.Fields} {key : String} {v : Json} {items : List Json}
    (h : Json.Fields.get? fields key = some v) : ItemsUnder fields key items ↔ v = .arr items := by
  constructor
  · intro hi
    cases hi with
    | missing h' => rw [h] at h'; cases h'
    | list h' => rw [h] at h'; cases h'; rfl
  · rintro rfl
    exact .list h

theorem itemsUnder_cons_ne {rest : Json.Fields} {key k : String} {w : Json} {items : List Json}
    (hk : k ≠ key) : ItemsUnder ((k, w) :: rest) key items ↔ ItemsUnder rest key items := by
  have hget : Json.Fields.get? ((k, w) :: rest) key = Json.Fields.get? rest key := by
    rw [Json.Fields.get?, if_neg hk]
  constructor
  · intro hi
    cases hi with
    | missing h => exact .missing (hget ▸ h)
    | list h => exact .list (hget ▸ h)
  · intro hi
    cases hi with
    | missing h => exact .missing (hget ▸ h)
    | list h => exact .list (hget ▸ h)

/-- A group read from a key of an object, when its children are read as they are meant. -/
theorem node_group {fields : Json.Fields} {g : Group} {key : String} {t : Tree}
    (hform : form fields = .group g key)
    (ih : ∀ ts, childrenField key fields = .ok ts ↔
      ∃ items, ItemsUnder fields key items ∧ NodesMean items ts) :
    node (.obj fields) = .ok t ↔
      ∃ items ts, ItemsUnder fields key items ∧ NodesMean items ts ∧ t = g.of ts := by
  rw [node, hform]
  constructor
  · intro h
    dsimp only at h
    split at h
    · rename_i ts hts
      cases h
      obtain ⟨items, hi, hm⟩ := (ih ts).mp hts
      exact ⟨items, ts, hi, hm, rfl⟩
    · cases h
  · rintro ⟨items, ts, hi, hm, rfl⟩
    have := (ih ts).mpr ⟨items, hi, hm⟩
    simp only [this]

theorem node_comparison {fields : Json.Fields} {t : Tree} (hform : form fields = .comparison) :
    node (.obj fields) = .ok t ↔
      ∃ op, comparisonOperator fields = .ok op ∧
        Compares op (fieldOf fields "field") (fieldOf fields "value") (fieldOf fields "values")
          t := by
  rw [node, hform]
  constructor
  · intro h
    dsimp only at h
    split at h
    · rename_i op hop; exact ⟨op, hop, leaf_eq_ok_iff.mp h⟩
    · cases h
  · rintro ⟨op, hop, compares⟩
    simp only [hop]
    exact leaf_eq_ok_iff.mpr compares

theorem node_map {fields : Json.Fields} {t : Tree} (hform : form fields = .map)
    (hif : Json.Fields.get? fields "if" = none) :
    node (.obj fields) = .ok t ↔ ∃ ts, RequiresAll fields ts ∧ t = .all ts := by
  rw [node, hform]
  constructor
  · intro h
    dsimp only at h
    split at h
    · rename_i ts hts
      cases h
      exact ⟨ts, (requirements_eq_ok_iff hif).mp hts, rfl⟩
    · cases h
  · rintro ⟨ts, requires, rfl⟩
    have := (requirements_eq_ok_iff hif).mpr requires
    simp only [this]

mutual
theorem node_eq_ok_iff : ∀ (v : Json) (t : Tree), node v = .ok t ↔ NodeMeans v t
  | .null, _ | .bool _, _ | .int _, _ | .double _, _ | .str _, _ =>
    ⟨fun h => (by cases h), fun h => (by cases h)⟩
  | .arr items, t => by
    have ih := nodes_eq_ok_iff items
    rw [node]
    constructor
    · intro h
      split at h
      · rename_i ts hts; cases h; exact .list ((ih ts).mp hts)
      · cases h
    · rintro (⟨children⟩)
      rw [(ih _).mpr children]
  | .obj fields, t => by
    have ihIn := inField_eq_ok_iff "if" fields
    have ihItems := fun key => childrenField_eq_ok_iff key fields
    cases hif : Json.Fields.get? fields "if" with
    | some v =>
      have hform : form fields = .wrapper := by simp [form, Json.Fields.has, hif]
      rw [node, hform, means_if hif]
      exact ihIn t v hif
    | none =>
    cases hop : Json.Fields.get? fields "op" with
    | some raw =>
      cases hg : group? raw with
      | some g =>
        have hform : form fields = .group g "children" := by
          simp [form, Json.Fields.has, hif, hop, hg]
        rw [node_group hform (ihItems "children"), means_group hif hop hg]
      | none =>
        have hform : form fields = .comparison := by simp [form, Json.Fields.has, hif, hop, hg]
        rw [node_comparison hform, means_comparison hif hop hg]
        simp only [comparisonOperator_op hop]
    | none =>
    cases hfield : Json.Fields.get? fields "field" with
    | some field =>
      have hform : form fields = .comparison := by
        simp [form, Json.Fields.has, hif, hop, hfield]
      rw [node_comparison hform, means_field hif hop hfield]
      simp only [comparisonOperator_field hop, fieldOf, hfield, Option.getD_some]
    | none =>
    cases hand : Json.Fields.get? fields "and" with
    | some v =>
      have hform : form fields = .group .all "and" := by
        simp [form, Json.Fields.has, hif, hop, hfield, hand]
      rw [node_group hform (ihItems "and"), means_and hif hop hfield hand]
      simp only [itemsUnder_some hand, Group.of]
    | none =>
    cases hor : Json.Fields.get? fields "or" with
    | some v =>
      have hform : form fields = .group .any "or" := by
        simp [form, Json.Fields.has, hif, hop, hfield, hand, hor]
      rw [node_group hform (ihItems "or"), means_or hif hop hfield hand hor]
      simp only [itemsUnder_some hor, Group.of]
    | none =>
      have hform : form fields = .map := by
        simp [form, Json.Fields.has, hif, hop, hfield, hand, hor]
      rw [node_map hform hif, means_map (by simp [hif, hop, hfield, hand, hor])]

theorem nodes_eq_ok_iff : ∀ (vs : List Json) (ts : List Tree), nodes vs = .ok ts ↔ NodesMean vs ts
  | [], ts => by
    rw [nodes]
    constructor
    · intro h; cases h; exact .nil
    · intro h; cases h; rfl
  | v :: rest, ts => by
    have ihFirst := node_eq_ok_iff v
    have ihOthers := nodes_eq_ok_iff rest
    rw [nodes]
    constructor
    · intro h
      split at h
      · rename_i t ht
        split at h
        · rename_i ts' hts
          cases h
          exact .cons ((ihFirst t).mp ht) ((ihOthers ts').mp hts)
        · cases h
      · cases h
    · intro h
      cases h with
      | cons first others => rw [(ihFirst _).mpr first, (ihOthers _).mpr others]

theorem inField_eq_ok_iff (key : String) : ∀ (fields : List (String × Json)) (t : Tree) (v : Json),
    Json.Fields.get? fields key = some v → (inField key fields = .ok t ↔ NodeMeans v t)
  | [], _, _ => fun h => (by cases h)
  | (k, w) :: rest, t, v => by
    have ihHere := node_eq_ok_iff w
    have ihRest := inField_eq_ok_iff key rest
    intro h
    rw [Json.Fields.get?] at h
    rw [inField]
    split at h
    · rename_i hk; cases h; rw [if_pos hk]; exact ihHere t
    · rename_i hk; rw [if_neg hk]; exact ihRest t v h

theorem childrenField_eq_ok_iff (key : String) :
    ∀ (fields : List (String × Json)) (ts : List Tree), childrenField key fields = .ok ts ↔
      ∃ items, ItemsUnder fields key items ∧ NodesMean items ts
  | [], ts => by
    rw [childrenField]
    constructor
    · intro h; cases h; exact ⟨[], .missing rfl, .nil⟩
    · rintro ⟨items, hitems, hmean⟩
      cases hitems with
      | missing => cases hmean; rfl
      | list h => cases h
  | (k, w) :: rest, ts => by
    have ihRest := childrenField_eq_ok_iff key rest
    by_cases hk : k = key
    · have hget : Json.Fields.get? ((k, w) :: rest) key = some w := by
        rw [Json.Fields.get?, if_pos hk]
      simp only [itemsUnder_some hget]
      cases w with
      | arr items =>
        have ihHere := nodes_eq_ok_iff items
        rw [childrenField, if_pos hk]
        exact ⟨fun h => ⟨items, rfl, (ihHere ts).mp h⟩,
          fun ⟨_, he, hm⟩ => (ihHere ts).mpr (Json.arr.inj he ▸ hm)⟩
      | _ => simp [childrenField, hk]
    · have hskip : childrenField key ((k, w) :: rest) = childrenField key rest := by
        cases w <;> simp [childrenField, hk]
      simp only [hskip, itemsUnder_cons_ne hk]
      exact ihRest ts
end

/-! ## The condition at the top -/

theorem parse_eq_ok_iff {v : Json} {t : Tree} : parse v = .ok t ↔ Means v t := by
  constructor
  · intro h
    unfold parse at h
    split at h
    · cases h; exact .null
    · cases h; exact .emptyList
    · cases h; exact .emptyObject
    · exact .node ((node_eq_ok_iff _ t).mp h)
  · intro h
    cases h with
    | null | emptyList | emptyObject => rfl
    | node inner =>
      have hnode := (node_eq_ok_iff v t).mpr inner
      unfold parse
      split
      · cases inner
      · simpa [node, nodes] using hnode
      · simpa [node, form, Json.Fields.has, Json.Fields.get?, requirements] using hnode
      · exact hnode

/-- No value has two meanings. -/
theorem means_unique {v : Json} {t u : Tree} (ht : Means v t) (hu : Means v u) : t = u := by
  have h := parse_eq_ok_iff.mpr ht
  rw [parse_eq_ok_iff.mpr hu] at h
  cases h
  rfl

/-- A value is read as a tree exactly when the tree is what it means; a value that means nothing,
and no other, is refused with the reason why it is no condition. -/
theorem parse_reads_the_grammar (v : Json) :
    (∀ t, parse v = .ok t ↔ Means v t) ∧
      ((∃ fault : Fault, parse v = .error fault) ↔ ∀ t, ¬Means v t) := by
  refine ⟨fun t => parse_eq_ok_iff, ?_⟩
  constructor
  · rintro ⟨fault, h⟩ t hm
    rw [parse_eq_ok_iff.mpr hm] at h
    cases h
  · intro hno
    cases hp : parse v with
    | ok t => exact absurd (parse_eq_ok_iff.mp hp) (hno t)
    | error fault => exact ⟨fault, rfl⟩

end TaskRules.Condition
