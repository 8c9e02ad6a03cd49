import TaskRules.Proofs.CheckedForms
import TaskRules.Proofs.ConditionTruth
import TaskRules.Proofs.JsonText

/-!
What the comparison for equality compares. Two values are the same (`SameBy`) when they have one
shape, lists agree position by position and objects name by name, and numbers amount to the
same. What counts as a number is open: `number?` keeps flags apart, `count?` counts them as 0
and 1. The comparison tells a flag from a number where it looks itself, which is at the top; what is
inside lists and objects it leaves to an equality that counts flags.

Proved:
- `same_iff`: the equality of values is `SameBy count?`, by induction on the value.
- `sameBy_number_iff`: the two readings agree where no flag meets a number.
- `equality_counts_inner_flags`: what the comparison decides, and when it is strict.
- `a_flag_in_a_list_equals_a_number`: a list where it is not.
-/

namespace TaskRules

/-! ## Amounts -/

/-- What a number amounts to. -/
inductive Amount where
  | rational (q : ℚ)
  | infinite (negative : Bool)

namespace Double

attribute [local irreducible] one limit

def amount? (x : Double) : Option Amount :=
  match x with
  | .nan => none
  | .infinite negative => some (.infinite negative)
  | .finite .. => some (.rational (x.rank / one))

theorem rank_infinite (negative : Bool) :
    (infinite negative).rank = if negative then -(limit : Int) else limit := by
  cases negative <;> rfl

theorem rank_finite_lt {negative : Bool} {steps : Nat} (h : (finite negative steps).InFormat) :
    -(limit : Int) < (finite negative steps).rank ∧ (finite negative steps).rank < limit := by
  have fits : steps < limit := h.2
  cases negative <;> simp only [rank] <;> omega

theorem rank_div_inj {m n : Int} : (m / one : ℚ) = n / one ↔ m = n := by
  have pos : (one : ℚ) ≠ 0 := by exact_mod_cast one_pos.ne'
  rw [div_left_inj' pos]
  exact Int.cast_inj

/-- Two doubles are equal when they are numbers that amount to the same. -/
theorem eq_iff {x y : Double} (hx : x.InFormat) (hy : y.InFormat) :
    x.eq y = true ↔ ∃ q, x.amount? = some q ∧ y.amount? = some q := by
  have pos := limit_pos
  cases x with
  | nan => simp [eq, isNaN, amount?]
  | infinite s =>
    cases y with
    | nan => simp [eq, isNaN, amount?]
    | infinite t =>
      cases s <;> cases t <;> simp [eq, isNaN, amount?, rank_infinite] <;> omega
    | finite t n =>
      have := rank_finite_lt hy
      cases s <;> simp [eq, isNaN, amount?, rank_infinite] <;> omega
  | finite s m =>
    cases y with
    | nan => simp [eq, isNaN, amount?]
    | infinite t =>
      have := rank_finite_lt hx
      cases t <;> simp [eq, isNaN, amount?, rank_infinite] <;> omega
    | finite t n => simp [eq, isNaN, amount?, rank_div_inj, eq_comm]

/-- A double is a whole number when it amounts to it. -/
theorem eqInt_iff {x : Double} {n : Int} :
    x.eqInt n = true ↔ x.amount? = some (.rational n) := by
  have pos : (one : ℚ) ≠ 0 := by exact_mod_cast one_pos.ne'
  cases x with
  | nan => simp [eqInt, steps?, amount?]
  | infinite s => simp [eqInt, steps?, amount?]
  | finite s m =>
    have steps : (finite s m).steps? = some (finite s m).rank := by cases s <;> rfl
    rw [eqInt, steps, beq_iff_eq, amount?, Option.some_inj, Option.some_inj,
      Amount.rational.injEq, div_eq_iff pos]
    norm_cast

end Double

namespace Json

/-- What a value amounts to that is a number. -/
def number? : Json → Option Amount
  | .int n => some (.rational n)
  | .double x => x.amount?
  | _ => none

/-- What a value amounts to where flags are counted as 0 and 1. -/
def count? : Json → Option Amount
  | .bool b => some (.rational (if b then 1 else 0))
  | v => v.number?

/-! ## The same value -/

/-- Two values of one shape: lists agree position by position, objects name by name, and what
amounts to something amounts to the same. -/
inductive SameBy (reads : Json → Option Amount) : Json → Json → Prop
  | null : SameBy reads .null .null
  | flag {b : Bool} : SameBy reads (.bool b) (.bool b)
  | number {v w : Json} {q : Amount} :
    reads v = some q → reads w = some q → SameBy reads v w
  | text {s : String} : SameBy reads (.str s) (.str s)
  | list {xs ys : List Json} : xs.length = ys.length →
    (∀ (i : Nat) x y, xs[i]? = some x → ys[i]? = some y → SameBy reads x y) →
    SameBy reads (.arr xs) (.arr ys)
  | object {fs gs : Fields} :
    (∀ name, Fields.get? fs name = none ↔ Fields.get? gs name = none) →
    (∀ name x y, Fields.get? fs name = some x → Fields.get? gs name = some y →
      SameBy reads x y) → SameBy reads (.obj fs) (.obj gs)

/-- Somewhere inside both values, at the same place, one has a flag and the other a number. -/
inductive FlagMeetsNumber : Json → Json → Prop
  | left {b : Bool} {w : Json} {q : Amount} : w.number? = some q → FlagMeetsNumber (.bool b) w
  | right {v : Json} {b : Bool} {q : Amount} : v.number? = some q → FlagMeetsNumber v (.bool b)
  | list {xs ys : List Json} {i : Nat} {x y : Json} : xs[i]? = some x → ys[i]? = some y →
    FlagMeetsNumber x y → FlagMeetsNumber (.arr xs) (.arr ys)
  | object {fs gs : Fields} {name : String} {x y : Json} : Fields.get? fs name = some x →
    Fields.get? gs name = some y → FlagMeetsNumber x y → FlagMeetsNumber (.obj fs) (.obj gs)

/-- Whether a value is a flag. -/
def isFlag : Json → Bool
  | .bool _ => true
  | _ => false

theorem isFlag_of_number {v : Json} {q : Amount} (h : v.number? = some q) : v.isFlag = false := by
  cases v <;> first | rfl | cases h

theorem SameBy.isFlag_eq {v w : Json} (h : SameBy number? v w) : v.isFlag = w.isFlag := by
  cases h with
  | number hv hw => rw [isFlag_of_number hv, isFlag_of_number hw]
  | _ => rfl

/-- Reading more values as numbers keeps values the same. -/
theorem SameBy.mono {f g : Json → Option Amount} (more : ∀ v q, f v = some q → g v = some q)
    {v w : Json} (h : SameBy f v w) : SameBy g v w := by
  induction h with
  | null => exact .null
  | flag => exact .flag
  | number hv hw => exact .number (more _ _ hv) (more _ _ hw)
  | text => exact .text
  | list lengths _ ih => exact .list lengths ih
  | object names _ ih => exact .object names ih

theorem count_of_number {v : Json} {q : Amount} (h : v.number? = some q) : v.count? = some q := by
  cases v <;> first | exact h | cases h

/-- What is counted is a flag or a number. -/
theorem flag_or_number {v : Json} {q : Amount} (h : v.count? = some q) :
    (∃ b, v = .bool b ∧ q = .rational (if b then 1 else 0)) ∨ v.number? = some q := by
  cases v with
  | bool b => exact .inl ⟨b, rfl, (Option.some.inj h).symm⟩
  | _ => exact .inr h

theorem sameBy_of_counts {v w : Json} {q : Amount} (hv : v.count? = some q)
    (hw : w.count? = some q) (apart : ¬FlagMeetsNumber v w) : SameBy number? v w := by
  rcases flag_or_number hv with ⟨b, rfl, hb⟩ | numbered
  · rcases flag_or_number hw with ⟨c, rfl, hc⟩ | numbered'
    · have same := hb.symm.trans hc
      cases b <;> cases c <;> first | exact .flag | simp at same
    · exact absurd (.left numbered') apart
  · rcases flag_or_number hw with ⟨c, rfl, -⟩ | numbered'
    · exact absurd (.right numbered) apart
    · exact .number numbered numbered'

/-- Where no flag meets a number, it makes no difference whether flags are counted. -/
theorem sameBy_number_iff {v w : Json} (apart : ¬FlagMeetsNumber v w) :
    SameBy number? v w ↔ SameBy count? v w := by
  refine ⟨SameBy.mono fun _ _ => count_of_number, fun h => ?_⟩
  induction h with
  | null => exact .null
  | flag => exact .flag
  | number hv hw => exact sameBy_of_counts hv hw apart
  | text => exact .text
  | list lengths _ ih =>
    exact .list lengths fun i x y hx hy => ih i x y hx hy fun meet => apart (.list hx hy meet)
  | object names _ ih =>
    exact .object names fun name x y hx hy =>
      ih name x y hx hy fun meet => apart (.object hx hy meet)

/-! ## Equality of values -/

/-- A double that binary64 has and that is a number; an object with each name once. -/
def IsDefinite : Json → Prop
  | .double x => x.InFormat ∧ x.isNaN = false
  | .obj fields => (Fields.names fields).Nodup
  | _ => True

theorem IsDefinite.isNaN_eq {v : Json} (h : v.IsDefinite) : v.isNaN = false := by
  cases v with
  | double x => exact h.2
  | _ => rfl

theorem count_of_numeric_int {v : Json} {n : Int} (h : v.numeric? = some (.int n)) :
    v.count? = some (.rational n) := by
  cases v with
  | bool b =>
    cases h
    cases b <;> simp [count?]
  | int n =>
    cases h
    rfl
  | _ => cases h

theorem eq_of_numeric_double {v : Json} {x : Double} (h : v.numeric? = some (.double x)) :
    v = .double x := by
  cases v <;> cases h
  rfl

theorem count_of_numeric_none {v : Json} (h : v.numeric? = none) : v.count? = none := by
  cases v <;> first | rfl | cases h

/-- Two values that stand for numbers are equal when they amount to the same. -/
theorem numeric_same_iff {v w : Json} (hv : v.IsDefinite) (hw : w.IsDefinite) {m n : Numeric}
    (hm : v.numeric? = some m) (hn : w.numeric? = some n) :
    m.same n = true ↔ ∃ q, v.count? = some q ∧ w.count? = some q := by
  cases m with
  | int a =>
    rw [count_of_numeric_int hm]
    cases n with
    | int b =>
      rw [count_of_numeric_int hn, Numeric.same, beq_iff_eq]
      constructor
      · rintro rfl
        exact ⟨_, rfl, rfl⟩
      · rintro ⟨q, ha, hb⟩
        simpa using ha.trans hb.symm
    | double y =>
      obtain rfl := eq_of_numeric_double hn
      rw [Numeric.same, Double.eqInt_iff]
      exact ⟨fun h => ⟨_, rfl, h⟩, fun ⟨_, hq, h⟩ => h.trans hq.symm⟩
  | double x =>
    obtain rfl := eq_of_numeric_double hm
    cases n with
    | int b =>
      rw [count_of_numeric_int hn, Numeric.same, Double.eqInt_iff]
      exact ⟨fun h => ⟨_, h, rfl⟩, fun ⟨_, h, hq⟩ => h.trans hq.symm⟩
    | double y =>
      obtain rfl := eq_of_numeric_double hn
      exact Double.eq_iff hv.1 hw.1

theorem same_of_numeric {v : Json} {m : Numeric} (hm : v.numeric? = some m) (w : Json) :
    v.same w = sameNumber m w := by
  cases v <;> cases hm <;> cases w <;> rfl

theorem sameBy_numeric {v w : Json} {m : Numeric} (hm : v.numeric? = some m)
    (h : SameBy count? v w) : ∃ q, v.count? = some q ∧ w.count? = some q := by
  cases h with
  | flag => exact ⟨_, rfl, rfl⟩
  | number hv hw => exact ⟨_, hv, hw⟩
  | _ => cases hm

/-- What stands for a number is equal to what it is the same as. -/
theorem same_numeric_iff {v w : Json} (hv : v.IsDefinite) (hw : w.IsDefinite) {m : Numeric}
    (hm : v.numeric? = some m) : v.same w = true ↔ SameBy count? v w := by
  have counted : SameBy count? v w ↔ ∃ q, v.count? = some q ∧ w.count? = some q :=
    ⟨sameBy_numeric hm, fun ⟨_, hq, hq'⟩ => .number hq hq'⟩
  rw [counted, same_of_numeric hm, sameNumber]
  cases hn : w.numeric? with
  | some n => exact numeric_same_iff hv hw hm hn
  | none => simp [count_of_numeric_none hn]

theorem sameItems_iff {xs ys : List Json} (numbers : ∀ x ∈ xs, x.isNaN = false) :
    sameItems xs ys = true ↔ xs.length = ys.length ∧
      ∀ (i : Nat) x y, xs[i]? = some x → ys[i]? = some y → x.same y = true := by
  induction xs generalizing ys with
  | nil => cases ys <;> simp [sameItems]
  | cons x xs ih =>
    obtain ⟨first, others⟩ := List.forall_mem_cons.mp numbers
    cases ys with
    | nil => simp [sameItems]
    | cons y ys =>
      rw [sameItems, first, Bool.false_and, Bool.false_or, Bool.and_eq_true, ih others,
        List.length_cons, List.length_cons, Nat.succ_inj]
      constructor
      · rintro ⟨same, lengths, rest⟩
        refine ⟨lengths, fun i a b ha hb => ?_⟩
        cases i with
        | zero => cases ha; cases hb; exact same
        | succ i => exact rest i a b ha hb
      · rintro ⟨lengths, all⟩
        exact ⟨all 0 x y rfl rfl, lengths, fun i a b ha hb => all (i + 1) a b ha hb⟩

theorem sameFields_iff {fs gs : Fields} (numbers : ∀ f ∈ fs, f.2.isNaN = false) :
    sameFields fs gs = true ↔
      ∀ f ∈ fs, ∃ w, Fields.get? gs f.1 = some w ∧ f.2.same w = true := by
  induction fs with
  | nil => simp [sameFields]
  | cons f fs ih =>
    obtain ⟨k, v⟩ := f
    obtain ⟨first, others⟩ := List.forall_mem_cons.mp numbers
    dsimp only at first
    rw [sameFields, Bool.and_eq_true, ih others, List.forall_mem_cons]
    refine and_congr_left fun _ => ?_
    cases Fields.get? gs k <;> simp [first]

theorem get?_eq_none_iff {fields : Fields} {name : String} :
    Fields.get? fields name = none ↔ name ∉ Fields.names fields := by
  induction fields with
  | nil => simp [Fields.get?, Fields.names]
  | cons f rest ih =>
    obtain ⟨k, v⟩ := f
    rw [Fields.get?, Fields.names, List.map_cons, List.mem_cons, not_or]
    by_cases h : k = name
    · simp [h]
    · rw [if_neg h, ih]
      exact (and_iff_right (Ne.symm h)).symm

theorem get?_of_mem {fields : Fields} (once : (Fields.names fields).Nodup) {f : String × Json}
    (mem : f ∈ fields) : Fields.get? fields f.1 = some f.2 := by
  induction fields with
  | nil => cases mem
  | cons g rest ih =>
    obtain ⟨k, v⟩ := g
    obtain ⟨fresh, once⟩ := List.nodup_cons.mp once
    rw [Fields.get?]
    rcases List.mem_cons.mp mem with rfl | later
    · exact if_pos rfl
    · rw [if_neg, ih once later]
      rintro rfl
      exact fresh (List.mem_map.mpr ⟨f, later, rfl⟩)

/-- Objects are equal when they have the same names and equal values under each. -/
theorem same_obj_iff {fs gs : Fields} (hf : (Fields.names fs).Nodup) (hg : (Fields.names gs).Nodup)
    (numbers : ∀ f ∈ fs, f.2.isNaN = false) :
    same (.obj fs) (.obj gs) = true ↔
      (∀ name, Fields.get? fs name = none ↔ Fields.get? gs name = none) ∧
        ∀ name x y, Fields.get? fs name = some x → Fields.get? gs name = some y →
          x.same y = true := by
  simp only [get?_eq_none_iff, not_iff_not]
  rw [same, Bool.and_eq_true, beq_iff_eq, sameFields_iff numbers]
  have lengths (fields : Fields) : (Fields.names fields).length = fields.length := List.length_map _
  constructor
  · rintro ⟨count, found⟩
    have within : Fields.names fs ⊆ Fields.names gs := by
      intro name mem
      obtain ⟨f, hfs, rfl⟩ := List.mem_map.mp mem
      obtain ⟨w, hw, -⟩ := found f hfs
      exact List.mem_map.mpr ⟨_, Schema.mem_of_get hw, rfl⟩
    -- as many names, none of them twice, so they are all the names of the other
    have perm : (Fields.names fs).Perm (Fields.names gs) :=
      (List.subperm_of_subset hf within).perm_of_length_le (by rw [lengths, lengths, count])
    refine ⟨fun name => perm.mem_iff, fun name x y hx hy => ?_⟩
    obtain ⟨w, hw, same⟩ := found (name, x) (Schema.mem_of_get hx)
    obtain rfl : w = y := Option.some.inj (hw.symm.trans hy)
    exact same
  · rintro ⟨names, values⟩
    have perm : (Fields.names fs).Perm (Fields.names gs) :=
      (List.perm_ext_iff_of_nodup hf hg).mpr names
    refine ⟨by rw [← lengths, ← lengths, perm.length_eq], fun f hfs => ?_⟩
    obtain ⟨g, hgs, hg'⟩ := List.mem_map.mp ((names f.1).mp (List.mem_map_of_mem hfs))
    have hy : Fields.get? gs f.1 = some g.2 := hg' ▸ get?_of_mem hg hgs
    exact ⟨g.2, hy, values f.1 f.2 g.2 (get?_of_mem hf hfs) hy⟩

theorem sameBy_arr_iff {xs ys : List Json} :
    SameBy count? (.arr xs) (.arr ys) ↔ xs.length = ys.length ∧
      ∀ (i : Nat) x y, xs[i]? = some x → ys[i]? = some y → SameBy count? x y := by
  constructor
  · intro h
    cases h with
    | number hv => cases hv
    | list lengths all => exact ⟨lengths, all⟩
  · rintro ⟨lengths, all⟩
    exact .list lengths all

theorem sameBy_obj_iff {fs gs : Fields} :
    SameBy count? (.obj fs) (.obj gs) ↔
      (∀ name, Fields.get? fs name = none ↔ Fields.get? gs name = none) ∧
        ∀ name x y, Fields.get? fs name = some x → Fields.get? gs name = some y →
          SameBy count? x y := by
  constructor
  · intro h
    cases h with
    | number hv => cases hv
    | object names all => exact ⟨names, all⟩
  · rintro ⟨names, all⟩
    exact .object names all

/-- The equality of values counts flags as numbers. -/
theorem same_iff {v w : Json} (hv : v.Throughout IsDefinite) (hw : w.Throughout IsDefinite) :
    v.same w = true ↔ SameBy count? v w := by
  -- on the left value; flags and numbers are one case, since they can be the same as each other
  induction hv generalizing w with
  | null _ =>
    constructor
    · intro h
      cases w <;> first | exact .null | cases h
    · intro h
      cases h <;> first | rfl | contradiction
  | bool h => exact same_numeric_iff h hw.here rfl
  | int h => exact same_numeric_iff h hw.here rfl
  | double h => exact same_numeric_iff h hw.here rfl
  | str _ =>
    constructor
    · intro h
      cases w with
      | str t =>
        obtain rfl := beq_iff_eq.mp h
        exact .text
      | _ => cases h
    · intro h
      cases h with
      | number hv => cases hv
      | text => simp [same]
  | @arr xs _ inner ih =>
    cases w with
    | arr ys =>
      cases hw with
      | arr _ inner' =>
        have inside {i : Nat} {x y : Json} (hx : xs[i]? = some x) (hy : ys[i]? = some y) :
            x.same y = true ↔ SameBy count? x y :=
          ih x (List.mem_of_getElem? hx) (inner' y (List.mem_of_getElem? hy))
        rw [same, sameItems_iff fun x hx => (inner x hx).here.isNaN_eq, sameBy_arr_iff]
        exact and_congr_right fun _ =>
          ⟨fun all i x y hx hy => (inside hx hy).mp (all i x y hx hy),
            fun all i x y hx hy => (inside hx hy).mpr (all i x y hx hy)⟩
    | _ =>
      refine ⟨fun h => ?_, fun h => ?_⟩
      · cases h
      · cases h
        contradiction
  | @obj fs once inner ih =>
    cases w with
    | obj gs =>
      cases hw with
      | obj once' inner' =>
        have inside {name : String} {x y : Json} (hx : Fields.get? fs name = some x)
            (hy : Fields.get? gs name = some y) : x.same y = true ↔ SameBy count? x y :=
          ih (name, x) (Schema.mem_of_get hx) (inner' (name, y) (Schema.mem_of_get hy))
        rw [same_obj_iff once once' fun f hf => (inner f hf).here.isNaN_eq, sameBy_obj_iff]
        exact and_congr_right fun _ =>
          ⟨fun all name x y hx hy => (inside hx hy).mp (all name x y hx hy),
            fun all name x y hx hy => (inside hx hy).mpr (all name x y hx hy)⟩
    | _ =>
      refine ⟨fun h => ?_, fun h => ?_⟩
      · cases h
      · cases h
        contradiction

end Json

namespace Condition

open Json

/-- At the top a flag is equal only to a flag; below it flags are counted. -/
theorem strictlyEqual_iff (v w : Json) :
    strictlyEqual v w = true ↔ v.isFlag = w.isFlag ∧ v.same w = true := by
  cases v with
  | bool b =>
    cases w with
    | bool c => cases b <;> cases c <;> decide
    | _ => simp [strictlyEqual, isFlag]
  | str s => cases w <;> simp [strictlyEqual, isFlag, same]
  | _ => cases w <;> simp [strictlyEqual, isFlag, same, sameNumber, numeric?]

/-- The comparison for equality of a field with a value, neither with a double that is no number. It
holds when both or neither are flags and they are the same where flags are counted. So it holds of
what is the same value, and of nothing else unless inside the two, at the same place, a flag meets a
number. -/
theorem equality_counts_inner_flags {payload : Json} {field : String} {v w : Json}
    (there : resolve payload field = .ok (some v)) (hv : v.Throughout IsDefinite)
    (hw : w.Throughout IsDefinite) (candidates : Option (List Json)) :
    ∃ equal : Bool, evaluate payload (.leaf ⟨.equals, field, w, candidates⟩) = .ok equal ∧
      (equal = true ↔ v.isFlag = w.isFlag ∧ SameBy count? v w) ∧
      (SameBy number? v w → equal = true) ∧
      (¬FlagMeetsNumber v w → (equal = true ↔ SameBy number? v w)) := by
  have decided : strictlyEqual v w = true ↔ v.isFlag = w.isFlag ∧ SameBy count? v w := by
    rw [strictlyEqual_iff, same_iff hv hw]
  refine ⟨strictlyEqual v w, evaluate_present there rfl, decided, fun h => ?_, fun apart => ?_⟩
  · exact decided.mpr ⟨h.isFlag_eq, h.mono fun _ _ => count_of_number⟩
  · rw [decided, ← sameBy_number_iff apart]
    exact and_iff_right_of_imp SameBy.isFlag_eq

/-- A zero is equal to another, inside an object whose fields stand in another order. -/
theorem a_reordered_object_is_equal :
    let v : Json := .obj [("left", .double (.finite true 0)), ("flags", .arr [.bool true])]
    let w : Json := .obj [("flags", .arr [.bool true]), ("left", .int 0)]
    v.Throughout IsDefinite ∧ w.Throughout IsDefinite ∧
      resolve (.obj [("box", v)]) "box" = .ok (some v) ∧
      evaluate (.obj [("box", v)]) (.leaf ⟨.equals, "box", w, none⟩) = .ok true := by
  intro v w
  have flags : Throughout IsDefinite (.arr [.bool true]) :=
    .arr trivial (List.forall_mem_singleton.mpr (.bool trivial))
  have zero : Throughout IsDefinite (.double (.finite true 0)) :=
    .double ⟨Double.zero_inFormat true, rfl⟩
  have hv : v.Throughout IsDefinite :=
    .obj (show List.Nodup ["left", "flags"] by decide) (by simp [zero, flags])
  have whole : Throughout IsDefinite (.int 0) := .int trivial
  have hw : w.Throughout IsDefinite :=
    .obj (show List.Nodup ["flags", "left"] by decide) (by simp [flags, whole])
  have same : SameBy number? v w := by
    refine .object (fun name => ?_) fun name x y hx hy => ?_
    · rw [get?_eq_none_iff, get?_eq_none_iff]
      simp [Fields.names, and_comm]
    · have counted : (Double.finite true 0).eqInt 0 = true := by decide +kernel
      rcases List.mem_cons.mp (Schema.mem_of_get hx) with h | h
      · cases h
        cases hy
        exact .number (Double.eqInt_iff.mp counted) rfl
      · cases List.mem_singleton.mp h
        cases hy
        exact .list rfl fun i a b ha hb => by
          obtain rfl : a = b := Option.some.inj (ha.symm.trans hb)
          cases List.mem_singleton.mp (List.mem_of_getElem? ha)
          exact .flag
  have there : resolve (.obj [("box", v)]) "box" = .ok (some v) := rfl
  obtain ⟨equal, evaluated, -, holds, -⟩ := equality_counts_inner_flags there hv hw none
  exact ⟨hv, hw, there, holds same ▸ evaluated⟩

/-- A list with a flag equals one with a number. -/
theorem a_flag_in_a_list_equals_a_number :
    let payload : Json := .obj [("flags", .arr [.bool true])]
    evaluate payload (.leaf ⟨.equals, "flags", .arr [.int 1], none⟩) = .ok true ∧
      ¬SameBy number? (.arr [.bool true]) (.arr [.int 1]) := by
  refine ⟨rfl, fun same => ?_⟩
  cases same with
  | number hv => cases hv
  | list _ all =>
    cases all 0 _ _ rfl rfl with
    | number hv => cases hv

end Condition
end TaskRules
