import Mathlib.Logic.Relation
import TaskRules.Proofs.ConditionTruth

/-!
Laws of conditions. The dual of a tree swaps both kinds of group and every comparison with its
partner; where all fields are present it says the opposite. Other rewritings keep the meaning: the
children of a group may stand in any order and more than once, a group dissolves in a group of its own
kind, a group of one child is the child, and membership in a list is written out as comparisons with
its items.

Proved:
- `holdsFor_partner`, `verdict_swap`: partners say the opposite of a present value, and so do the
  kinds of group of opposite children.
- `dual_negates`: the dual of a tree is true exactly when the tree is false.
- `Rewrites.keeps`: one rewriting, at any depth, keeps the truth of a tree and adds no path to it.
- `rewriting_keeps_the_meaning`: any number of rewritings leave the evaluation as it is.
- `a_bug_report_negated`, `a_bug_report_rewritten`: a condition to which the laws apply.
-/

namespace TaskRules.Condition

/-! ## Membership -/

/-- Membership of a present value looks through the list. -/
theorem holdsFor_isIn {l : Leaf} {items : List Json} (operator : l.operator = .isIn)
    (list : l.members = some items) (v : Json) :
    holdsFor l v = items.any (strictlyEqual v) := by
  simp only [holdsFor, operator, list]

theorem holdsFor_notIn {l : Leaf} {items : List Json} (operator : l.operator = .notIn)
    (list : l.members = some items) (v : Json) :
    holdsFor l v = !items.any (strictlyEqual v) := by
  simp only [holdsFor, operator, list]

/-! ## Duality -/

/-- The comparison that says the opposite, where there is one. -/
def Operator.partner : Operator → Operator
  | .equals => .notEquals
  | .notEquals => .equals
  | .isIn => .notIn
  | .notIn => .isIn
  | .isEmpty => .isNotEmpty
  | .isNotEmpty => .isEmpty
  | op => op

def Leaf.partner (l : Leaf) : Leaf := { l with operator := l.operator.partner }

/-- A comparison that has a partner; membership needs a list to look in. -/
def Leaf.Paired (l : Leaf) : Prop :=
  l.operator ∈ [.equals, .notEquals, .isEmpty, .isNotEmpty] ∨
    l.operator ∈ [.isIn, .notIn] ∧ ∃ items, l.members = some items

/-- The other kind of group. -/
def Group.swap : Group → Group
  | .all => .any
  | .any => .all

mutual
/-- The tree with the kinds of its groups swapped and its comparisons replaced by their partners. -/
def Tree.dual : Tree → Tree
  | .leaf l => .leaf l.partner
  | .all children => .any (dualOf children)
  | .any children => .all (dualOf children)

def dualOf : List Tree → List Tree
  | [] => []
  | t :: rest => t.dual :: dualOf rest
end

theorem dualOf_eq (ts : List Tree) : dualOf ts = ts.map Tree.dual := by
  induction ts with
  | nil => rfl
  | cons t rest ih => rw [dualOf, ih, List.map_cons]

theorem dual_of (g : Group) (ts : List Tree) : (g.of ts).dual = g.swap.of (ts.map Tree.dual) := by
  cases g with
  | all => exact congrArg Tree.any (dualOf_eq ts)
  | any => exact congrArg Tree.all (dualOf_eq ts)

/-- The dual compares the same fields. -/
theorem leaves_dual (t : Tree) : t.dual.leaves = t.leaves.map Leaf.partner := by
  induction t using Tree.induction with
  | leaf l => rfl
  | group g ts ih =>
    rw [dual_of, leaves_of, leaves_of, List.flatMap_map, List.map_flatMap, List.flatMap_def,
      List.flatMap_def, List.map_congr_left ih]

/-- Of a present value, the partner of a comparison says the opposite. -/
theorem holdsFor_partner {l : Leaf} (h : l.Paired) (v : Json) :
    holdsFor l.partner v = !holdsFor l v := by
  rcases h with plain | ⟨member, items, list⟩
  · simp only [List.mem_cons, List.not_mem_nil, or_false] at plain
    rcases plain with operator | operator | operator | operator
    all_goals simp [holdsFor, Leaf.partner, operator, Operator.partner]
  · have list' : l.partner.members = some items := list
    simp only [List.mem_cons, List.not_mem_nil, or_false] at member
    rcases member with operator | operator
    · have operator' : l.partner.operator = .notIn := congrArg Operator.partner operator
      rw [holdsFor_isIn operator list, holdsFor_notIn operator' list']
    · have operator' : l.partner.operator = .isIn := congrArg Operator.partner operator
      rw [holdsFor_notIn operator list, holdsFor_isIn operator' list', Bool.not_not]

/-- The kinds of group are dual to each other. -/
theorem verdict_swap (g : Group) (truths : List Bool) :
    g.swap.verdict (truths.map not) = !g.verdict truths := by
  cases g with
  | all =>
    show (truths.map not).any id = !truths.all id
    rw [List.any_map, List.not_all_eq_any_not]
    rfl
  | any =>
    show (truths.map not).all id = !truths.any id
    rw [List.all_map, List.not_any_eq_all_not]
    rfl

theorem truth_dual {t : Tree} {look : String → Option Json}
    (h : ∀ l ∈ t.leaves, l.Paired ∧ ∃ v, look l.field = some v) :
    t.dual.truth look = !t.truth look := by
  induction t using Tree.induction with
  | leaf l =>
    obtain ⟨paired, v, present⟩ := h l (List.mem_singleton_self l)
    show holds l.partner (look l.field) = !holds l (look l.field)
    rw [present]
    exact holdsFor_partner paired v
  | group g ts ih =>
    have opposite : ∀ t ∈ ts, t.dual.truth look = !t.truth look :=
      fun t ht => ih t ht (forall_leaves_of.mp h t ht)
    rw [dual_of, truth_of, truth_of, ← verdict_swap, List.map_map, List.map_map]
    exact congrArg _ (List.map_congr_left opposite)

/-- De Morgan: where all paths of a tree lead to values and all its comparisons have partners, the
dual of the tree is true exactly when the tree is false. -/
theorem dual_negates {payload : Json} {t : Tree} (paired : ∀ l ∈ t.leaves, l.Paired)
    (present : ∀ l ∈ t.leaves, ∃ v, resolve payload l.field = .ok (some v)) :
    ∃ b, evaluate payload t = .ok b ∧ evaluate payload t.dual = .ok (!b) := by
  have readable : Readable payload t := by
    intro l hl
    obtain ⟨v, hv⟩ := present l hl
    exact ⟨some v, hv⟩
  have shown : Shows payload t.dual (foundAt payload) := by
    rw [Shows, leaves_dual, List.forall_mem_map]
    exact readable.shows
  refine ⟨_, readable.evaluate_eq, ?_⟩
  rw [evaluate_eq shown]
  refine congrArg _ (truth_dual fun l hl => ⟨paired l hl, ?_⟩)
  obtain ⟨v, hv⟩ := present l hl
  exact ⟨v, foundAt_of_ok hv⟩

/-- A task of high priority that is no chore, or one without an owner and with an estimate other than
a flag. -/
def bugReport : Tree :=
  .any [.all [.leaf ⟨.isIn, "task.priority", .null, some [.str "high", .str "urgent"]⟩,
      .leaf ⟨.notIn, "task.type", .arr [.str "chore"], none⟩, .any []],
    .all [.leaf ⟨.isEmpty, "task.owner", .null, none⟩,
      .leaf ⟨.notEquals, "task.estimate", .bool true, none⟩]]

/-- A bug, whose owner is null. -/
def reportedBug : Json :=
  .obj [("task", .obj [("priority", .str "high"), ("type", .str "bug"), ("owner", .null),
    ("estimate", .int 1)])]

theorem a_bug_report_negated :
    (∀ l ∈ bugReport.leaves, l.Paired) ∧
      (∀ l ∈ bugReport.leaves, ∃ v, resolve reportedBug l.field = .ok (some v)) ∧
      (∃ b, evaluate reportedBug bugReport = .ok b ∧
        evaluate reportedBug bugReport.dual = .ok (!b)) ∧
      evaluate reportedBug bugReport = .ok true := by
  have paired : ∀ l ∈ bugReport.leaves, l.Paired := by
    refine List.forall_mem_cons.mpr ⟨.inr ⟨by decide, _, rfl⟩, ?_⟩
    refine List.forall_mem_cons.mpr ⟨.inr ⟨by decide, _, rfl⟩, ?_⟩
    refine List.forall_mem_cons.mpr ⟨.inl (by decide), ?_⟩
    exact List.forall_mem_singleton.mpr (.inl (by decide))
  have present : ∀ l ∈ bugReport.leaves, ∃ v, resolve reportedBug l.field = .ok (some v) := by
    refine List.forall_mem_cons.mpr ⟨⟨.str "high", rfl⟩, ?_⟩
    refine List.forall_mem_cons.mpr ⟨⟨.str "bug", rfl⟩, ?_⟩
    refine List.forall_mem_cons.mpr ⟨⟨.null, rfl⟩, ?_⟩
    exact List.forall_mem_singleton.mpr ⟨.int 1, rfl⟩
  exact ⟨paired, present, dual_negates paired present, rfl⟩

/-! ## Rewriting -/

/-- The comparisons of a field with each item of a list. -/
def withEach (op : Operator) (field : String) (items : List Json) : List Tree :=
  items.map fun v => .leaf ⟨op, field, v, none⟩

/-- One rewriting of a tree, at any depth. -/
inductive Rewrites : Tree → Tree → Prop
  | permute {g : Group} {ts us : List Tree} (order : ts.Perm us) : Rewrites (g.of ts) (g.of us)
  | duplicate {g : Group} {t : Tree} {ts : List Tree} (child : t ∈ ts) :
      Rewrites (g.of ts) (g.of (t :: ts))
  | dissolve {g : Group} {before inner after : List Tree} :
      Rewrites (g.of (before ++ g.of inner :: after)) (g.of (before ++ inner ++ after))
  | single {g : Group} {t : Tree} : Rewrites (g.of [t]) t
  | isIn {l : Leaf} {items : List Json} (operator : l.operator = .isIn)
      (list : l.members = some items) :
      Rewrites (.leaf l) (.any (withEach .equals l.field items))
  | notIn {l : Leaf} {items : List Json} (operator : l.operator = .notIn)
      (list : l.members = some items) (filled : items ≠ []) :
      Rewrites (.leaf l) (.all (withEach .notEquals l.field items))
  | inside {g : Group} {before after : List Tree} {t u : Tree} (step : Rewrites t u) :
      Rewrites (g.of (before ++ t :: after)) (g.of (before ++ u :: after))

/-- What a rewriting keeps: the truth of the tree, whatever its paths lead to, and no path is added
to those of the tree. -/
structure Keeps (t u : Tree) : Prop where
  truth : ∀ look, u.truth look = t.truth look
  paths : ∀ l ∈ u.leaves, ∃ l' ∈ t.leaves, l'.field = l.field

theorem Keeps.refl (t : Tree) : Keeps t t where
  truth := fun _ => rfl
  paths := fun l hl => ⟨l, hl, rfl⟩

theorem Keeps.trans {t u v : Tree} (h : Keeps t u) (h' : Keeps u v) : Keeps t v where
  truth := fun look => (h'.truth look).trans (h.truth look)
  paths := by
    intro l hl
    obtain ⟨m, hm, same⟩ := h'.paths l hl
    obtain ⟨n, hn, same'⟩ := h.paths m hm
    exact ⟨n, hn, same'.trans same⟩

/-- A group is decided by which truths its children have, in whatever order and number. -/
theorem Keeps.ofMem {g : Group} {ts us : List Tree} (same : ∀ t, t ∈ us ↔ t ∈ ts) :
    Keeps (g.of ts) (g.of us) where
  truth := by
    intro look
    rw [truth_of, truth_of, Bool.eq_iff_iff]
    cases g with
    | all => simp only [verdict_all, same]
    | any => simp only [verdict_any, same]
  paths := by
    intro l hl
    rw [leaves_of, List.mem_flatMap] at hl
    obtain ⟨t, ht, hlt⟩ := hl
    refine ⟨l, ?_, rfl⟩
    rw [leaves_of]
    exact List.mem_flatMap.mpr ⟨t, (same t).mp ht, hlt⟩

/-- The truths of a group of the same kind decide in its place. -/
theorem verdict_dissolve (g : Group) (before inner after : List Bool) :
    g.verdict (before ++ inner ++ after) = g.verdict (before ++ g.verdict inner :: after) := by
  cases g <;> simp [Group.verdict]

theorem Keeps.dissolve (g : Group) (before inner after : List Tree) :
    Keeps (g.of (before ++ g.of inner :: after)) (g.of (before ++ inner ++ after)) where
  truth := by
    intro look
    simp only [truth_of, List.map_append, List.map_cons, verdict_dissolve]
  paths := by
    intro l hl
    refine ⟨l, ?_, rfl⟩
    simpa only [leaves_of, List.flatMap_append, List.flatMap_cons, List.append_assoc] using hl

theorem Keeps.single (g : Group) (t : Tree) : Keeps (g.of [t]) t where
  truth := by
    intro look
    rw [truth_of]
    cases g <;> simp [Group.verdict]
  paths := by
    intro l hl
    refine ⟨l, ?_, rfl⟩
    rwa [leaves_of, List.flatMap_singleton]

theorem Keeps.inside {g : Group} {before after : List Tree} {t u : Tree} (h : Keeps t u) :
    Keeps (g.of (before ++ t :: after)) (g.of (before ++ u :: after)) where
  truth := by
    intro look
    simp only [truth_of, List.map_append, List.map_cons, h.truth]
  paths := by
    intro l hl
    simp only [leaves_of, List.flatMap_append, List.flatMap_cons, List.mem_append] at hl ⊢
    rcases hl with hl | hl | hl
    · exact ⟨l, .inl hl, rfl⟩
    · obtain ⟨l', hl', same⟩ := h.paths l hl
      exact ⟨l', .inr (.inl hl'), same⟩
    · exact ⟨l, .inr (.inr hl), rfl⟩

/-! ### Membership written out -/

theorem truth_withEach (g : Group) (op : Operator) (field : String) (items : List Json)
    (look : String → Option Json) :
    (g.of (withEach op field items)).truth look =
      g.verdict (items.map fun v => holds ⟨op, field, v, none⟩ (look field)) := by
  rw [truth_of, withEach, List.map_map]
  rfl

theorem field_of_withEach {g : Group} {op : Operator} {field : String} {items : List Json} {l : Leaf}
    (h : l ∈ (g.of (withEach op field items)).leaves) : l.field = field := by
  rw [leaves_of, withEach, List.flatMap_map, List.mem_flatMap] at h
  obtain ⟨v, -, hl⟩ := h
  rw [leaves_leaf, List.mem_singleton] at hl
  rw [hl]

/-- A missing field is in no list and equals no item of one. -/
theorem Keeps.isIn {l : Leaf} {items : List Json} (operator : l.operator = .isIn)
    (list : l.members = some items) :
    Keeps (.leaf l) (Group.any.of (withEach .equals l.field items)) where
  truth := by
    intro look
    rw [truth_withEach, truth_leaf]
    cases look l.field with
    | none =>
      have unequal : ∀ v, holds ⟨.equals, l.field, v, none⟩ none = false := fun _ => holds_none nofun
      rw [holds_none (by rw [operator]; nofun)]
      simp [Group.verdict, unequal]
    | some v =>
      rw [holds, holdsFor_isIn operator list]
      simp [Group.verdict, holds, holdsFor]
  paths := fun _ hl => ⟨l, List.mem_singleton_self l, (field_of_withEach hl).symm⟩

/-- A missing field fails the test for not being in a list, so there has to be an item from which it
fails to differ: a group of no comparisons would hold. -/
theorem Keeps.notIn {l : Leaf} {items : List Json} (operator : l.operator = .notIn)
    (list : l.members = some items) (filled : items ≠ []) :
    Keeps (.leaf l) (Group.all.of (withEach .notEquals l.field items)) where
  truth := by
    intro look
    rw [truth_withEach, truth_leaf]
    cases look l.field with
    | none =>
      obtain ⟨v, rest, rfl⟩ := List.exists_cons_of_ne_nil filled
      have undiffering : holds ⟨.notEquals, l.field, v, none⟩ none = false := holds_none nofun
      rw [holds_none (by rw [operator]; nofun)]
      simp [Group.verdict, undiffering]
    | some v =>
      rw [holds, holdsFor_notIn operator list, List.not_any_eq_all_not]
      simp [Group.verdict, holds, holdsFor]
  paths := fun _ hl => ⟨l, List.mem_singleton_self l, (field_of_withEach hl).symm⟩

/-! ### Any number of rewritings -/

/-- A rewriting keeps the truth of a tree and adds no path to it. -/
theorem Rewrites.keeps {t u : Tree} (h : Rewrites t u) : Keeps t u := by
  induction h with
  | permute order => exact .ofMem fun t => order.mem_iff.symm
  | duplicate child =>
    refine .ofMem fun t => ?_
    rw [List.mem_cons]
    exact or_iff_right_of_imp fun same => same ▸ child
  | dissolve => exact .dissolve ..
  | single => exact .single ..
  | isIn operator list => exact .isIn operator list
  | notIn operator list filled => exact .notIn operator list filled
  | inside _ ih => exact ih.inside

/-- Rewritings of a condition, any number of them at any depth, leave its evaluation as it is on
every payload on which its paths are resolved. -/
theorem rewriting_keeps_the_meaning {payload : Json} {t u : Tree}
    (readable : ∀ l ∈ t.leaves, ∃ found, resolve payload l.field = .ok found)
    (rewritten : Relation.ReflTransGen Rewrites t u) :
    ∃ b, evaluate payload t = .ok b ∧ evaluate payload u = .ok b := by
  have kept : Keeps t u := by
    induction rewritten with
    | refl => exact .refl t
    | tail _ step ih => exact ih.trans step.keeps
  have readable' : Readable payload u := by
    intro l hl
    obtain ⟨l', hl', same⟩ := kept.paths l hl
    rw [← same]
    exact readable l' hl'
  refine ⟨t.truth (foundAt payload), Readable.evaluate_eq readable, ?_⟩
  rw [readable'.evaluate_eq, kept.truth]

/-- The same report, with the lists written out and one of its two cases said twice. -/
def bugReportAtLength : Tree :=
  .any [.all [.leaf ⟨.isEmpty, "task.owner", .null, none⟩,
      .leaf ⟨.notEquals, "task.estimate", .bool true, none⟩],
    .all [.leaf ⟨.isEmpty, "task.owner", .null, none⟩,
      .leaf ⟨.notEquals, "task.estimate", .bool true, none⟩],
    .all [.any [.leaf ⟨.equals, "task.priority", .str "high", none⟩,
        .leaf ⟨.equals, "task.priority", .str "urgent", none⟩],
      .leaf ⟨.notEquals, "task.type", .str "chore", none⟩, .any []]]

theorem a_bug_report_rewritten :
    (∀ l ∈ bugReport.leaves, ∃ found, resolve reportedBug l.field = .ok found) ∧
      Relation.ReflTransGen Rewrites bugReport bugReportAtLength ∧
      ∃ b, evaluate reportedBug bugReport = .ok b ∧
        evaluate reportedBug bugReportAtLength = .ok b := by
  have readable : ∀ l ∈ bugReport.leaves, ∃ found, resolve reportedBug l.field = .ok found := by
    refine List.forall_mem_cons.mpr ⟨⟨some (.str "high"), rfl⟩, ?_⟩
    refine List.forall_mem_cons.mpr ⟨⟨some (.str "bug"), rfl⟩, ?_⟩
    refine List.forall_mem_cons.mpr ⟨⟨some .null, rfl⟩, ?_⟩
    exact List.forall_mem_singleton.mpr ⟨some (.int 1), rfl⟩
  have rewritten : Relation.ReflTransGen Rewrites bugReport bugReportAtLength := by
    refine .head (@Rewrites.inside .any [] _ _ _ (@Rewrites.inside .all [] _ _ _ (.isIn rfl rfl))) ?_
    refine .head (@Rewrites.inside .any [] _ _ _
      (@Rewrites.inside .all [_] _ _ _ (.notIn rfl rfl (by simp)))) ?_
    refine .head (@Rewrites.inside .any [] _ _ _ (@Rewrites.dissolve .all [_] _ [_])) ?_
    refine .head (@Rewrites.permute .any _ _ (.swap _ _ [])) ?_
    exact .single (@Rewrites.duplicate .any _ _ (List.mem_cons_self ..))
  exact ⟨readable, rewritten, rewriting_keeps_the_meaning readable rewritten⟩

end TaskRules.Condition
