import TaskRules.Condition.Evaluate
import TaskRules.Condition.Grammar
import TaskRules.Proofs.PayloadPaths

/-!
The truth of a condition. Evaluation looks at a payload only through the paths of the comparisons,
so a tree has a truth value for every answer to "what does this path lead to": a comparison is asked
about its own path, and a group holds when all, or any, of its children do. Where no path of a tree
fails, evaluation gives this truth value, and stopping early is not to be seen.

Proved:
- `Tree.induction`: one case for a comparison and one for both kinds of group.
- `evaluate_eq`: where the paths of a tree are resolved, evaluation gives the truth of the tree.
- `fault_of_evaluate`: a fault of evaluation is a fault of one of the paths.
- `only_garbled_positions_fail`: paths are resolved to what they lead to or to none, and they fail,
  and make an evaluation fail, only by a garbled position.
- `a_raised_two_fails`: one that does.
-/

namespace TaskRules.Condition

/-! ## Trees -/

mutual
/-- The comparisons of a tree, from left to right. -/
def Tree.leaves : Tree → List Leaf
  | .leaf l => [l]
  | .all children => leavesOf children
  | .any children => leavesOf children

def leavesOf : List Tree → List Leaf
  | [] => []
  | t :: rest => t.leaves ++ leavesOf rest
end

theorem leavesOf_eq (ts : List Tree) : leavesOf ts = ts.flatMap Tree.leaves := by
  induction ts with
  | nil => rfl
  | cons t rest ih => rw [leavesOf, List.flatMap_cons, ih]

@[simp] theorem leaves_leaf (l : Leaf) : (Tree.leaf l).leaves = [l] := rfl

@[simp] theorem leaves_of (g : Group) (ts : List Tree) :
    (g.of ts).leaves = ts.flatMap Tree.leaves := by
  cases g <;> exact leavesOf_eq ts

/-- What holds of all comparisons of a group holds of those of each child. -/
theorem forall_leaves_of {p : Leaf → Prop} {g : Group} {ts : List Tree} :
    (∀ l ∈ (g.of ts).leaves, p l) ↔ ∀ t ∈ ts, ∀ l ∈ t.leaves, p l := by
  simp only [leaves_of, List.mem_flatMap]
  constructor
  · exact fun h t ht l hl => h l ⟨t, ht, hl⟩
  · rintro h l ⟨t, ht, hl⟩
    exact h t ht l hl

mutual
/-- Induction on trees: on comparisons, and on groups of either kind. -/
theorem Tree.induction {P : Tree → Prop} (leaf : ∀ l, P (.leaf l))
    (group : ∀ (g : Group) (ts : List Tree), (∀ t ∈ ts, P t) → P (g.of ts)) : ∀ t, P t
  | .leaf l => leaf l
  | .all ts => group .all ts (Tree.inductionOf leaf group ts)
  | .any ts => group .any ts (Tree.inductionOf leaf group ts)

theorem Tree.inductionOf {P : Tree → Prop} (leaf : ∀ l, P (.leaf l))
    (group : ∀ (g : Group) (ts : List Tree), (∀ t ∈ ts, P t) → P (g.of ts)) :
    ∀ ts : List Tree, ∀ t ∈ ts, P t
  | [] => by simp
  | t :: rest =>
    List.forall_mem_cons.mpr ⟨Tree.induction leaf group t, Tree.inductionOf leaf group rest⟩
end

/-! ## Truth -/

/-- Whether a group holds, given what its children do. -/
def Group.verdict : Group → List Bool → Bool
  | .all, truths => truths.all id
  | .any, truths => truths.any id

theorem verdict_all {f : Tree → Bool} {ts : List Tree} :
    Group.all.verdict (ts.map f) = true ↔ ∀ t ∈ ts, f t = true := by
  simp [Group.verdict]

theorem verdict_any {f : Tree → Bool} {ts : List Tree} :
    Group.any.verdict (ts.map f) = true ↔ ∃ t ∈ ts, f t = true := by
  simp [Group.verdict]

mutual
/-- The truth of a tree, given what its paths lead to. -/
def Tree.truth (look : String → Option Json) : Tree → Bool
  | .leaf l => holds l (look l.field)
  | .all children => truthOfAll look children
  | .any children => truthOfAny look children

def truthOfAll (look : String → Option Json) : List Tree → Bool
  | [] => true
  | t :: rest => t.truth look && truthOfAll look rest

def truthOfAny (look : String → Option Json) : List Tree → Bool
  | [] => false
  | t :: rest => t.truth look || truthOfAny look rest
end

/-- A missing field passes no comparison but the test for emptiness. -/
theorem holds_none {l : Leaf} (h : l.operator ≠ .isEmpty) : holds l none = false :=
  beq_eq_false_iff_ne.mpr h

@[simp] theorem truth_leaf (look : String → Option Json) (l : Leaf) :
    (Tree.leaf l).truth look = holds l (look l.field) := rfl

@[simp] theorem truth_of (look : String → Option Json) (g : Group) (ts : List Tree) :
    (g.of ts).truth look = g.verdict (ts.map (Tree.truth look)) := by
  cases g with
  | all =>
    show truthOfAll look ts = (ts.map (Tree.truth look)).all id
    induction ts with
    | nil => rfl
    | cons t rest ih => rw [truthOfAll, ih]; rfl
  | any =>
    show truthOfAny look ts = (ts.map (Tree.truth look)).any id
    induction ts with
    | nil => rfl
    | cons t rest ih => rw [truthOfAny, ih]; rfl

/-! ## Evaluation -/

/-- A comparison with a field that is there. -/
theorem evaluate_present {payload v : Json} {field : String}
    (there : resolve payload field = .ok (some v)) {op : Operator} {w : Json}
    {candidates : Option (List Json)} {b : Bool}
    (compared : holdsFor ⟨op, field, w, candidates⟩ v = b) :
    evaluate payload (.leaf ⟨op, field, w, candidates⟩) = .ok b := by
  rw [evaluate, there, ← compared]
  rfl

/-- The payload has, at every path of the tree, what is looked up there. -/
def Shows (payload : Json) (t : Tree) (look : String → Option Json) : Prop :=
  ∀ l ∈ t.leaves, resolve payload l.field = .ok (look l.field)

/-- No path of the tree fails. -/
def Readable (payload : Json) (t : Tree) : Prop :=
  ∀ l ∈ t.leaves, ∃ found, resolve payload l.field = .ok found

/-- What a path leads to; nothing where it fails. -/
def foundAt (payload : Json) (path : String) : Option Json :=
  match resolve payload path with
  | .ok found => found
  | .error _ => none

theorem foundAt_of_ok {payload : Json} {path : String} {found : Option Json}
    (h : resolve payload path = .ok found) : foundAt payload path = found := by
  rw [foundAt, h]

theorem Readable.shows {payload : Json} {t : Tree} (h : Readable payload t) :
    Shows payload t (foundAt payload) := by
  intro l hl
  obtain ⟨found, hfound⟩ := h l hl
  rw [foundAt_of_ok hfound, hfound]

/-- A group of children that have been evaluated; early ends are not to be seen. -/
theorem evaluate_of {payload : Json} {g : Group} {ts : List Tree} {f : Tree → Bool}
    (h : ∀ t ∈ ts, evaluate payload t = .ok (f t)) :
    evaluate payload (g.of ts) = .ok (g.verdict (ts.map f)) := by
  cases g with
  | all =>
    show evaluateAll payload ts = .ok ((ts.map f).all id)
    induction ts with
    | nil => rfl
    | cons t rest ih =>
      obtain ⟨first, others⟩ := List.forall_mem_cons.mp h
      rw [evaluateAll, first, List.map_cons, List.all_cons, ih others]
      cases f t <;> rfl
  | any =>
    show evaluateAny payload ts = .ok ((ts.map f).any id)
    induction ts with
    | nil => rfl
    | cons t rest ih =>
      obtain ⟨first, others⟩ := List.forall_mem_cons.mp h
      rw [evaluateAny, first, List.map_cons, List.any_cons, ih others]
      cases f t <;> rfl

/-- Where the paths of a tree are resolved, evaluation gives the truth of the tree. -/
theorem evaluate_eq {payload : Json} {look : String → Option Json} {t : Tree}
    (h : Shows payload t look) : evaluate payload t = .ok (t.truth look) := by
  induction t using Tree.induction with
  | leaf l => rw [evaluate, h l (List.mem_singleton_self l), truth_leaf]
  | group g ts ih =>
    rw [truth_of]
    exact evaluate_of fun t ht => ih t ht (forall_leaves_of.mp h t ht)

theorem Readable.evaluate_eq {payload : Json} {t : Tree} (h : Readable payload t) :
    evaluate payload t = .ok (t.truth (foundAt payload)) :=
  Condition.evaluate_eq h.shows

/-- A fault of a group is a fault of one of its children. -/
theorem fault_of_group {payload : Json} {g : Group} {ts : List Tree} {fault : NumeralFault}
    (h : evaluate payload (g.of ts) = .error fault) :
    ∃ t ∈ ts, evaluate payload t = .error fault := by
  cases g with
  | all =>
    replace h : evaluateAll payload ts = .error fault := h
    induction ts with
    | nil => cases h
    | cons t rest ih =>
      rw [evaluateAll] at h
      split at h
      · obtain ⟨t', ht', hfault⟩ := ih h
        exact ⟨t', List.mem_cons_of_mem _ ht', hfault⟩
      · cases h
      · rename_i first
        exact ⟨t, List.mem_cons_self .., first.trans h⟩
  | any =>
    replace h : evaluateAny payload ts = .error fault := h
    induction ts with
    | nil => cases h
    | cons t rest ih =>
      rw [evaluateAny] at h
      split at h
      · cases h
      · obtain ⟨t', ht', hfault⟩ := ih h
        exact ⟨t', List.mem_cons_of_mem _ ht', hfault⟩
      · rename_i first
        exact ⟨t, List.mem_cons_self .., first.trans h⟩

/-- A fault of evaluation is a fault of one of the tree's paths. -/
theorem fault_of_evaluate {payload : Json} {t : Tree} {fault : NumeralFault}
    (h : evaluate payload t = .error fault) :
    ∃ l ∈ t.leaves, resolve payload l.field = .error fault := by
  induction t using Tree.induction with
  | leaf l =>
    rw [evaluate] at h
    split at h
    · cases h
    · rename_i f failed
      obtain rfl := Except.error.inj h
      exact ⟨l, List.mem_singleton_self l, failed⟩
  | group g ts ih =>
    obtain ⟨t, ht, failed⟩ := fault_of_group h
    obtain ⟨l, hl, hfault⟩ := ih t ht failed
    exact ⟨l, by rw [leaves_of]; exact List.mem_flatMap.mpr ⟨t, ht, hl⟩, hfault⟩

/-! ## What can fail -/

/-- A path is resolved to the value that it leads to and to none when it strays, and it fails exactly
when it stumbles. A condition is true or false, or one of its paths stumbles and its fault is that of
the condition. -/
theorem only_garbled_positions_fail (payload : Json) :
    (∀ path : String,
      (∀ v, resolve payload path = .ok (some v) ↔ Leads payload (segments path) v) ∧
        (resolve payload path = .ok none ↔
          (∀ v, ¬Leads payload (segments path) v) ∧ ¬Stumbles payload (segments path)) ∧
          ((∃ fault, resolve payload path = .error fault) ↔
            Stumbles payload (segments path))) ∧
      ∀ t : Tree, (∃ b, evaluate payload t = .ok b) ∨
        ∃ l ∈ t.leaves, Stumbles payload (segments l.field) ∧
          ∃ fault, resolve payload l.field = .error fault ∧
            evaluate payload t = .error fault := by
  constructor
  · intro path
    refine ⟨fun v => resolve_found_iff, ?_, resolve_fails_iff⟩
    simp only [← resolve_found_iff, ← resolve_fails_iff]
    rcases h : resolve payload path with fault | (_ | v) <;> simp
  · intro t
    cases h : evaluate payload t with
    | ok b => exact .inl ⟨b, rfl⟩
    | error fault =>
      obtain ⟨l, hl, hfault⟩ := fault_of_evaluate h
      exact .inr ⟨l, hl, resolve_fails_iff.mp ⟨fault, hfault⟩, fault, hfault, rfl⟩

/-- A raised two is a digit, but not a decimal one, so at a list it is neither a position nor
nothing. -/
theorem a_raised_two_fails :
    let payload : Json := .obj [("labels", .arr [.str "frontend"])]
    (¬∃ found, resolve payload "labels.²" = .ok found) ∧
      ¬∃ b, evaluate payload (.leaf ⟨.equals, "labels.²", .str "frontend", none⟩) = .ok b := by
  intro payload
  have failed : resolve payload "labels.²" = .error (.malformed "²") := rfl
  constructor
  · rw [failed]
    rintro ⟨found, h⟩
    cases h
  · rw [evaluate, failed]
    rintro ⟨b, h⟩
    cases h

end TaskRules.Condition
