import Mathlib.Tactic.ByContra
import TaskRules.Condition.Source
import TaskRules.Proofs.ConditionTruth

/-!
Where a rule's condition comes from. The rule's own conditions count unless they are void, then those
of its trigger, and only when both are void the trigger's filters. A source that counts is the only
one: when it cannot be read or evaluated the rule is not met, and no other source takes its place.

Proved:
- `truthy_iff`: what counts as present, against the values that are void.
- `treeOf_of_source`, `treeOf_of_none`: the tree of a rule is read from its source, or made of the
  filters.
- `evaluate_filterTree`: filters can always be evaluated, and what they decide.
- `isMet_by_source`: whether a rule is met, and the warnings.
-/

namespace TaskRules

namespace Json

/-- The values that count as absent. -/
inductive Void : Json → Prop
  | null : Void .null
  | no : Void (.bool false)
  | zero : Void (.int 0)
  | zeroDouble (negative : Bool) : Void (.double (.finite negative 0))
  | emptyText : Void (.str "")
  | emptyList : Void (.arr [])
  | emptyObject : Void (.obj [])

theorem truthy_eq_false_iff {v : Json} : v.truthy = false ↔ v.Void := by
  constructor
  · intro absent
    cases v with
    | null => exact .null
    | bool b =>
      cases b with
      | false => exact .no
      | true => cases absent
    | int n =>
      obtain rfl : n = 0 := by simpa [truthy] using absent
      exact .zero
    | double x =>
      cases x with
      | finite negative steps =>
        cases steps with
        | zero => exact .zeroDouble negative
        | succ steps => cases absent
      | nan => cases absent
      | infinite => cases absent
    | str s =>
      obtain rfl : s = "" := by simpa [truthy] using absent
      exact .emptyText
    | arr items =>
      cases items with
      | nil => exact .emptyList
      | cons => cases absent
    | obj fields =>
      cases fields with
      | nil => exact .emptyObject
      | cons => cases absent
  · intro void
    cases void <;> rfl

/-- Present are the values that are not void. -/
theorem truthy_iff {v : Json} : v.truthy = true ↔ ¬v.Void := by
  rw [← truthy_eq_false_iff, Bool.not_eq_false]

end Json

namespace Condition

/-! ## The source -/

/-- The value that a rule's condition is read from: its own conditions, or those of its trigger when
its own are void. -/
inductive Source (rule : Rule) : Json → Prop
  | own : ¬rule.conditions.Void → Source rule rule.conditions
  | trigger {C : Json} : rule.conditions.Void → rule.triggerConfig.get? "conditions" = some C →
    ¬C.Void → Source rule C

theorem Source.present {rule : Rule} {C : Json} (h : Source rule C) : ¬C.Void := by
  cases h <;> assumption

theorem Source.written_eq {rule : Rule} {C : Json} (h : Source rule C) : written rule = C := by
  cases h with
  | own present => rw [written, if_pos (Json.truthy_iff.mpr present)]
  | trigger void found present =>
    have absent := Json.truthy_eq_false_iff.mpr void
    rw [written, if_neg (by rw [absent]; decide), found]
    exact if_pos (Json.truthy_iff.mpr present)

/-- A rule has one source at most. -/
theorem Source.unique {rule : Rule} {C D : Json} (h : Source rule C) (h' : Source rule D) : C = D :=
  h.written_eq.symm.trans h'.written_eq

theorem written_of_none {rule : Rule} (none : ∀ C, ¬Source rule C) : written rule = .null := by
  have void : rule.conditions.Void := by_contra fun present => none _ (.own present)
  have absent := Json.truthy_eq_false_iff.mpr void
  rw [written, if_neg (by rw [absent]; decide)]
  split
  · rename_i C found
    have void' : C.Void := by_contra fun present => none C (.trigger void found present)
    exact if_neg (by rw [Json.truthy_eq_false_iff.mpr void']; decide)
  · rfl

/-- The tree of a rule with a source is what the source is read as. -/
theorem treeOf_of_source {rule : Rule} {C : Json} (h : Source rule C) : treeOf rule = parse C := by
  rw [treeOf, h.written_eq]
  split
  · exact absurd .null h.present
  · rfl

theorem treeOf_of_none {rule : Rule} (none : ∀ C, ¬Source rule C) :
    treeOf rule = .ok (filterTree rule.triggerConfig.fields) := by
  rw [treeOf, written_of_none none]

/-! ## Filters -/

/-- The filters of a trigger: under which key it asks for which field of the task. -/
def taskFilters : List (String × String) :=
  [("taskType", "type"), ("priority", "priority"), ("projectId", "projectId"),
    ("assigneeId", "assigneeId")]

/-- A trigger asks for a value of a field of the task. -/
def Asks (config : Json) (field : String) (v : Json) : Prop :=
  ∃ key, (key, field) ∈ taskFilters ∧ config.get? key = some v ∧ ¬v.Void

/-- A field of the task of a payload. -/
def taskField (payload : Json) (field : String) : Option Json :=
  (payload.get? "task").bind (·.get? field)

theorem triggerFilters_eq :
    triggerFilters = taskFilters.map fun p => (p.1, "task." ++ p.2) := rfl

/-- A segment that is not made of digits leads to a field. -/
theorem hop_name {segment : String} (h : Text.allDigits segment.toList = false) (v : Json) :
    hop v segment = .ok (v.get? segment) := by
  cases v with
  | arr items =>
    rw [hop, if_neg (by rw [h]; decide)]
    rfl
  | _ => rfl

theorem walk_names {first second : String} (h : Text.allDigits first.toList = false)
    (h' : Text.allDigits second.toList = false) (v : Json) :
    walk v [first, second] = .ok ((v.get? first).bind (·.get? second)) := by
  rw [walk, hop_name h]
  cases v.get? first with
  | none => rfl
  | some w =>
    dsimp only
    rw [walk, hop_name h', Option.bind_some]
    cases w.get? second <;> rfl

theorem resolve_task {p : String × String} (h : p ∈ taskFilters) (payload : Json) :
    resolve payload ("task." ++ p.2) = .ok (taskField payload p.2) := by
  have path : ∀ p ∈ taskFilters, segments ("task." ++ p.2) = ["task", p.2] ∧
      Text.allDigits p.2.toList = false := by decide
  obtain ⟨split, name⟩ := path p h
  rw [resolve, split]
  exact walk_names (by decide) name payload

/-- The comparisons that a trigger's filters make. -/
def filters (config : Json) : List Leaf :=
  taskFilters.filterMap fun p =>
    let value := fieldOf config.fields p.1
    if value.truthy then some ⟨.equals, "task." ++ p.2, value, none⟩ else none

theorem filterTree_eq (config : Json) :
    filterTree config.fields = Group.all.of ((filters config).map .leaf) := by
  rw [filterTree, triggerFilters_eq, filters, List.map_filterMap, List.filterMap_map]
  refine congrArg (fun f => Tree.all (taskFilters.filterMap f)) (funext fun p => ?_)
  dsimp only [Function.comp_apply]
  split <;> rfl

/-- A key that asks for something is a field that is there. -/
theorem fieldOf_eq_iff {config : Json} {key : String} {v : Json} (present : ¬v.Void) :
    fieldOf config.fields key = v ↔ config.get? key = some v := by
  have found : config.get? key = Json.Fields.get? config.fields key := by cases config <;> rfl
  rw [fieldOf, found]
  cases Json.Fields.get? config.fields key with
  | some w => exact Option.some_inj.symm
  | none =>
    constructor
    · rintro rfl
      exact absurd .null present
    · rintro ⟨⟩

theorem mem_filters_iff {config : Json} {l : Leaf} :
    l ∈ filters config ↔
      ∃ field v, Asks config field v ∧ l = ⟨.equals, "task." ++ field, v, none⟩ := by
  rw [filters, List.mem_filterMap]
  constructor
  · rintro ⟨⟨key, field⟩, mem, asked⟩
    dsimp only at asked
    split at asked
    · rename_i truthy
      have present := Json.truthy_iff.mp truthy
      cases asked
      exact ⟨field, _, ⟨key, mem, (fieldOf_eq_iff present).mp rfl, present⟩, rfl⟩
    · cases asked
  · rintro ⟨field, v, ⟨key, mem, found, present⟩, rfl⟩
    refine ⟨(key, field), mem, ?_⟩
    dsimp only
    rw [(fieldOf_eq_iff present).mpr found, if_pos (Json.truthy_iff.mpr present)]

/-- Filters can always be evaluated. They hold when every field that the trigger asks for is strictly
equal to what it asks. -/
theorem evaluate_filterTree (payload config : Json) :
    ∃ b, evaluate payload (filterTree config.fields) = .ok b ∧
      (b = true ↔ ∀ field v, Asks config field v →
        ∃ w, taskField payload field = some w ∧ strictlyEqual w v = true) := by
  let decided (t : Tree) : Bool := t.truth (foundAt payload)
  have leads {field : String} {v : Json} (asks : Asks config field v) :
      resolve payload ("task." ++ field) = .ok (taskField payload field) := by
    obtain ⟨key, mem, -⟩ := asks
    exact resolve_task mem payload
  rw [filterTree_eq]
  refine ⟨_, evaluate_of (f := decided) fun t ht => ?_, ?_⟩
  · obtain ⟨l, hl, rfl⟩ := List.mem_map.mp ht
    obtain ⟨field, v, asks, rfl⟩ := mem_filters_iff.mp hl
    refine evaluate_eq fun l hl => ?_
    obtain rfl := List.mem_singleton.mp hl
    rw [leads asks, foundAt_of_ok (leads asks)]
  · rw [verdict_all]
    constructor
    · intro all field v asks
      have holds := all _ (List.mem_map_of_mem (mem_filters_iff.mpr ⟨field, v, asks, rfl⟩))
      dsimp only [decided] at holds
      rw [truth_leaf, foundAt_of_ok (leads asks)] at holds
      cases found : taskField payload field with
      | none => rw [found] at holds; cases holds
      | some w => rw [found] at holds; exact ⟨w, rfl, holds⟩
    · intro all t ht
      obtain ⟨l, hl, rfl⟩ := List.mem_map.mp ht
      obtain ⟨field, v, asks, rfl⟩ := mem_filters_iff.mp hl
      obtain ⟨w, found, equal⟩ := all field v asks
      dsimp only [decided]
      rw [truth_leaf, foundAt_of_ok (leads asks), found]
      exact equal

/-! ## Rules -/

/-- The data that a payload gives; null gives none. -/
def dataOf (payload : Json) : Json := if payload.isNull then .obj [] else payload

/-- A rule whose condition is decided gives no warning. -/
theorem isMet_of_ok {rule : Rule} {payload : Json} {t : Tree} {b : Bool}
    (tree : treeOf rule = .ok t) (evaluated : evaluate (dataOf payload) t = .ok b) :
    isMet rule payload = (b, []) := by
  rw [dataOf] at evaluated
  rw [isMet, tree]
  dsimp only
  rw [evaluated]

/-- A rule whose condition is not decided gives one warning. -/
theorem isMet_of_undecided {rule : Rule} {payload : Json}
    (undecided : ∀ t b, treeOf rule = .ok t → evaluate (dataOf payload) t ≠ .ok b) :
    ∃ message, isMet rule payload = (false, [Log.warning logger message]) := by
  rw [isMet]
  cases tree : treeOf rule with
  | error fault => exact ⟨_, rfl⟩
  | ok t =>
    dsimp only
    cases evaluated : evaluate (if payload.isNull then .obj [] else payload) t with
    | error fault => exact ⟨_, rfl⟩
    | ok b => exact absurd evaluated (undecided t b tree)

/-- A rule is met, with no warning, when the tree of its source is; it is not met, with one warning,
when its source cannot be read or its tree cannot be evaluated. A rule without a source is met when
every field that its trigger asks for is strictly equal to what it asks, so a rule with neither is
met. -/
theorem isMet_by_source (rule : Rule) (payload : Json) :
    (∀ C, Source rule C →
      (∀ t b, parse C = .ok t → evaluate (dataOf payload) t = .ok b →
        isMet rule payload = (b, [])) ∧
      ((∀ t b, parse C = .ok t → evaluate (dataOf payload) t ≠ .ok b) →
        ∃ message, isMet rule payload = (false, [Log.warning logger message]))) ∧
    ((∀ C, ¬Source rule C) → ∃ b, isMet rule payload = (b, []) ∧
      (b = true ↔ ∀ field v, Asks rule.triggerConfig field v →
        ∃ w, taskField (dataOf payload) field = some w ∧ strictlyEqual w v = true) ∧
      ((∀ field v, ¬Asks rule.triggerConfig field v) → b = true)) := by
  constructor
  · intro C source
    rw [← treeOf_of_source source]
    exact ⟨fun t b => isMet_of_ok, isMet_of_undecided⟩
  · intro none
    obtain ⟨b, evaluated, holds⟩ := evaluate_filterTree (dataOf payload) rule.triggerConfig
    refine ⟨b, isMet_of_ok (treeOf_of_none none) evaluated, holds, fun unasked => ?_⟩
    exact holds.mpr fun field v asks => absurd asks (unasked field v)

end Condition
end TaskRules
