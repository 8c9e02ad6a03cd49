import TaskRules.Migration.Marks
import TaskRules.Proofs.Runs

/-!
Plans of migrations. Whatever a target is, no spot that it stands for is beyond the last revision;
so an upgrade carries out the revisions from the current one up to one of the chain, and a downgrade
takes back those down to one.

Proved:
- `walk_within`, `spot_within`, `spots_within`: identifiers and steps do not leave the chain.
- `upgradeTarget_within`, `downgradeTarget_within`: nor do targets.
- `upgradePlan_between`, `downgradePlan_between`: the revisions of a plan.
- `afterUpgrade_marksAt`, `afterDowngrade_marksAt`: how a step of a plan moves the mark.
-/

namespace TaskRules

/-! ## What a computation yields -/

/-- A computation all of whose results have a property. -/
def Yields (P : α → Prop) (x : Except ε α) : Prop := ∀ a, x = .ok a → P a

namespace Yields
variable {P : α → Prop} {Q : β → Prop}

theorem ofOk {a : α} (h : P a) : Yields P (.ok a : Except ε α) := by
  rintro b ⟨⟩
  exact h

theorem ofPure {a : α} (h : P a) : Yields P (pure a : Except ε α) := ofOk h

theorem ofError (e : ε) : Yields P (.error e) := by
  rintro b ⟨⟩

theorem bind {x : Except ε α} (hx : Yields P x) {f : α → Except ε β}
    (hf : ∀ a, P a → Yields Q (f a)) : Yields Q (x >>= f) := by
  intro b h
  obtain ⟨a, ha, hb⟩ := ok_of_bind h
  exact hf a (hx a ha) b hb

/-- After a part whose result does not matter. -/
theorem after (x : Except ε α) {f : α → Except ε β} (hf : ∀ a, Yields Q (f a)) :
    Yields Q (x >>= f) :=
  bind (P := fun _ => True) (fun _ _ => trivial) fun a _ => hf a

theorem mapM {f : α → Except ε β} {l : List α} (h : ∀ a ∈ l, Yields Q (f a)) :
    Yields (fun bs => ∀ b ∈ bs, Q b) (l.mapM f) := by
  induction l with
  | nil => exact ofPure (by simp)
  | cons a rest ih =>
    obtain ⟨first, others⟩ := List.forall_mem_cons.mp h
    rw [List.mapM_cons]
    refine first.bind fun b hb => (ih others).bind fun bs hbs => ofPure ?_
    exact List.forall_mem_cons.mpr ⟨hb, hbs⟩

end Yields

namespace Migration

/-! ## Spots of the chain -/

namespace Spot

/-- The place of a spot; the base and the foot are below all revisions. -/
def place : Spot → Nat
  | .revision n => n
  | _ => 0

/-- Whether a spot is not beyond the last revision. -/
def Within (s : Spot) : Prop := s.place ≤ head

theorem base_within : base.Within := Nat.zero_le _

theorem head_within : (revision head).Within := Nat.le_refl head

theorem number_within {s : Spot} (hs : s.Within) : Yields (· ≤ head) s.number := by
  cases s with
  | revision n => exact .ofOk hs
  | base => exact .ofError _
  | foot => exact .ofError _

theorem up_within (target : Nat) :
    (if target = 0 ∨ target > head then base else revision target).Within := by
  split
  · exact base_within
  · show target ≤ head
    omega

theorem down_within {n steps : Nat} (hn : n ≤ head + 1) (hs : 0 < steps) :
    (if steps < n then revision (n - steps) else if steps = n then foot else base).Within := by
  split
  · show n - steps ≤ head
    omega
  · split <;> exact Nat.zero_le _

/-- A walk ends in the chain, or leaves it and comes out at the base. -/
theorem walk_within {s : Spot} (hs : s.Within) (steps : Int) : Yields Within (s.walk steps) := by
  cases s with
  | base =>
    refine .ofOk ?_
    split
    · exact up_within _
    · exact down_within (Nat.le_refl _) (by omega)
  | foot =>
    show Yields Within (if 0 < steps then .error unexpected else _)
    split
    · exact .ofError _
    · refine .ofOk ?_
      split <;> exact Nat.zero_le _
  | revision n =>
    refine .ofOk ?_
    split
    · exact up_within _
    · exact down_within (Nat.le_succ_of_le hs) (by omega)

end Spot

open Spot (Within)

/-! ## Identifiers -/

theorem find_le (id : String) : Yields (· ≤ head) (find id) := by
  unfold find place?
  cases found : chain.findIdx? (·.id == id) with
  | none => exact .ofError _
  | some i => exact .ofOk (List.findIdx?_eq_some_iff_getElem.mp found).1

theorem spotOf_within (id label : Option String) : Yields Within (spotOf id label) := by
  have found : Yields Within (spotOf id none) := by
    cases id with
    | none => exact .ofPure Spot.base_within
    | some id => exact (find_le id).bind fun n hn => .ofPure hn
  cases label with
  | none => exact found
  | some label => exact .after (checkBranch label) fun _ => found

theorem spot_within (text : String) : Yields Within (spot text) := by
  unfold spot
  exact .after _ fun _ => spotOf_within _ _

/-- All of some spots are in the chain. -/
def AllWithin (l : List Spot) : Prop := ∀ s ∈ l, s.Within

theorem spots_within (text : String) : Yields AllWithin (spots text) := by
  have none_within : AllWithin [] := by simp [AllWithin]
  have one {x : Except Fault Spot} (hx : Yields Within x) :
      Yields AllWithin (do return [← x]) :=
    hx.bind fun s hs => .ofPure (by simpa [AllWithin] using hs)
  unfold spots
  refine .after _ fun ids => ?_
  cases ids with
  | nil => exact .ofPure none_within
  | cons id rest =>
    dsimp only
    split
    · split
      · split
        · exact .ofPure none_within
        · exact one (Spot.walk_within Spot.head_within _)
      · exact one (spotOf_within _ _)
    · exact one (spotOf_within _ _)

theorem allSpots_within (texts : List String) : Yields AllWithin (allSpots texts) := by
  have more (found : List Spot) (h : AllWithin found) : Yields AllWithin
      (texts.foldlM (fun found text => do return found ++ (← spots text)) found) := by
    induction texts generalizing found with
    | nil => exact .ofPure h
    | cons text rest ih =>
      rw [List.foldlM_cons]
      refine Yields.bind ?_ ih
      refine (spots_within text).bind fun l hl => .ofPure ?_
      exact List.forall_mem_append.mpr ⟨h, hl⟩
  exact more [] (by simp [AllWithin])

/-! ## Targets -/

theorem walkIn_within {start : Spot} (hs : start.Within) (steps : Int) (label : Option String) :
    Yields Within (walkIn start steps label) := by
  unfold walkIn
  exact .after _ fun _ => Spot.walk_within hs steps

theorem startsIn_within (current : List String) (label : String) :
    Yields AllWithin (startsIn current label) := by
  unfold startsIn
  refine (allSpots_within current).bind fun l hl => .after _ fun _ => .ofPure ?_
  intro s hs
  obtain ⟨s', hs', rfl⟩ := List.mem_map.mp hs
  split
  · exact Spot.base_within
  · exact hl s' hs'

theorem upgradeStart_within (current : List String) (label : Option String) :
    Yields Within (upgradeStart current label) := by
  unfold upgradeStart
  cases label with
  | none =>
    have found : ∀ x ∈ current.map spot, Yields Within x := by
      intro x hx
      obtain ⟨text, -, rfl⟩ := List.mem_map.mp hx
      exact spot_within text
    show Yields Within (pure (current.map spot) >>= _)
    refine Yields.bind (P := fun xs => ∀ x ∈ xs, Yields Within x) (.ofPure found) ?_
    intro xs hxs
    dsimp only
    split
    · exact .ofPure Spot.base_within
    · exact hxs _ (List.mem_singleton_self _)
    · exact .ofError _
  | some label =>
    refine (startsIn_within current label).bind fun l hl => ?_
    refine Yields.bind (P := fun xs => ∀ x ∈ xs, Yields Within x) ?_ ?_
    · exact .mapM fun s hs => .ofPure (.ofPure (hl s hs))
    · intro xs hxs
      dsimp only
      split
      · exact .ofPure Spot.base_within
      · exact hxs _ (List.mem_singleton_self _)
      · exact .ofError _

/-- The spots that an upgrade leads to are in the chain. -/
theorem upgradeTarget_within (current : List String) (text : String) :
    Yields AllWithin (upgradeTarget current text) := by
  have one {s : Spot} (hs : s.Within) : Yields AllWithin (pure [s] : Except Fault (List Spot)) :=
    .ofPure (by simpa [AllWithin] using hs)
  unfold upgradeTarget
  split
  · exact spots_within text
  · rename_i r _
    refine .after _ fun _ => ?_
    split
    · split
      · refine (upgradeStart_within current r.label).bind fun start hstart => ?_
        refine (walkIn_within hstart r.steps r.label).bind fun t ht => ?_
        cases t with
        | base => exact .ofError _
        | foot => exact one ht
        | revision n => exact one ht
      · refine (spot_within _).bind fun start hstart => ?_
        exact (walkIn_within hstart r.steps r.label).bind fun t ht => one ht
    · split
      · exact .ofError _
      · exact (spot_within _).bind fun start hstart =>
          (Spot.walk_within hstart _).bind fun t ht => one ht

/-- The spot that a downgrade leads to is in the chain. -/
theorem downgradeTarget_within (current : List String) (text : String) :
    Yields Within (downgradeTarget current text) := by
  unfold downgradeTarget
  split
  · exact spot_within _
  · rename_i r _
    refine .after _ fun _ => Yields.bind (P := Within) ?_ fun t ht => ?_
    · split
      · split
        · exact .ofError _
        · exact (spot_within _).bind fun start hstart => walkIn_within hstart _ _
      · refine .after _ fun _ => (spot_within _).bind fun start hstart => ?_
        exact Spot.walk_within hstart _
    · cases t with
      | base => exact .ofError _
      | foot => exact .ofOk Spot.base_within
      | revision n => exact .ofOk ht

/-! ## Plans -/

/-- The mark of a database that is at a place; there is none at the base. -/
def marksAt (place : Nat) : Marks := (idAt? place).toList

/-- Places of the chain, one by one. -/
theorem place_cases {p : Nat} (h : p ≤ head) : p = 0 ∨ p = 1 ∨ p = 2 := by
  have two : head = 2 := rfl
  omega

/-- Places have marks of their own. -/
theorem marksAt_injective {p q : Nat} (hp : p ≤ head) (hq : q ≤ head)
    (h : marksAt p = marksAt q) : p = q := by
  have numbered : ∀ i ∈ List.range (head + 1), ∀ j ∈ List.range (head + 1),
      marksAt i = marksAt j → i = j := by decide
  exact numbered p (List.mem_range.mpr (by omega)) q (List.mem_range.mpr (by omega)) h

/-- The mark of a place stands for the revision at that place. -/
theorem numbers_marksAt {p : Nat} (h : p ≤ head) :
    ∃ places numbers, allSpots (marksAt p) = .ok places ∧ places.head? ≠ some .base ∧
      places.mapM (·.number) = .ok numbers ∧ highest numbers = p ∧ checkApart numbers = .ok () := by
  rcases place_cases h with rfl | rfl | rfl
  · exact ⟨[], [], rfl, by decide, rfl, rfl, rfl⟩
  · exact ⟨[.revision 1], [1], rfl, by decide, rfl, rfl, rfl⟩
  · exact ⟨[.revision 2], [2], rfl, by decide, rfl, rfl, rfl⟩

theorem highest_le {numbers : List Nat} {n : Nat} (h : ∀ m ∈ numbers, m ≤ n) :
    highest numbers ≤ n := by
  have fold (start : Nat) (hs : start ≤ n) : numbers.foldl max start ≤ n := by
    induction numbers generalizing start with
    | nil => exact hs
    | cons m rest ih =>
      obtain ⟨first, others⟩ := List.forall_mem_cons.mp h
      exact ih others _ (Nat.max_le.mpr ⟨hs, first⟩)
  exact fold 0 (Nat.zero_le n)

theorem between_of_le {low high : Nat} (h : high ≤ low) : between low high = [] := by
  rw [between, List.drop_eq_nil_of_le (by rwa [List.length_range]), List.map_nil]

theorem between_cons {low high : Nat} (h : low < high) :
    between low high = (low + 1) :: between (low + 1) high := by
  have there : low < (List.range high).length := by rwa [List.length_range]
  rw [between, List.drop_eq_getElem_cons there, List.getElem_range, List.map_cons, between]

theorem between_succ {low high : Nat} (h : low ≤ high) :
    between low (high + 1) = between low high ++ [high + 1] := by
  have there : low ≤ (List.range high).length := by rwa [List.length_range]
  rw [between, List.range_succ, List.drop_append_of_le_length there, List.map_append, between]
  rfl

/-- An upgrade carries out the revisions from above the current one up to one of the chain. -/
theorem upgradePlan_between {p : Nat} (hp : p ≤ head) (text : String) :
    Yields (fun plan => ∃ q, q ≤ head ∧ plan = between p q) (upgradePlan (marksAt p) text) := by
  obtain ⟨places, numbers, hplaces, notBase, hnumbers, top, apart⟩ := numbers_marksAt hp
  unfold upgradePlan
  refine (upgradeTarget_within _ text).bind fun targets within => ?_
  have low : Yields (fun ns => ∀ n ∈ ns, n ≤ head) (targets.mapM (·.number)) :=
    .mapM fun s hs => Spot.number_within (within s hs)
  refine low.bind fun ns hns => ?_
  rw [hplaces]
  show Yields _ (if places.head? = some .base then _ else _)
  rw [if_neg notBase, hnumbers]
  show Yields _ (checkApart numbers >>= _)
  rw [apart]
  exact .ofPure ⟨_, highest_le hns, by rw [top]⟩

/-- A downgrade takes back the revisions from the current one down to above one of the chain. -/
theorem downgradePlan_between {p : Nat} (hp : p ≤ head) (text : String) :
    Yields (fun plan => ∃ q, q ≤ head ∧ plan = (between q p).reverse)
      (downgradePlan (marksAt p) text) := by
  obtain ⟨places, numbers, hplaces, -, hnumbers, top, -⟩ := numbers_marksAt hp
  unfold downgradePlan
  refine (downgradeTarget_within _ text).bind fun target within => ?_
  rw [hplaces]
  show Yields _ (places.mapM (·.number) >>= _)
  rw [hnumbers]
  cases target with
  | base => exact .ofPure ⟨0, Nat.zero_le _, by rw [top]⟩
  | foot => exact .ofPure ⟨0, Nat.zero_le _, by rw [top]⟩
  | revision n =>
    have checked (refused : Bool) (e : Fault) :
        Yields (fun plan => ∃ q, q ≤ head ∧ plan = (between q p).reverse)
          (do
            if refused then throw e
            return (between n (highest numbers)).reverse : Except Fault (List Nat)) := by
      cases refused with
      | true => exact .ofError e
      | false => exact .ofPure ⟨n, within, by rw [top]⟩
    exact checked _ _

/-- At the head an upgrade to it has nothing to do. -/
theorem upgradePlan_head {p : Nat} (hp : p ≤ head) :
    upgradePlan (marksAt p) "head" = .ok (between p head) := by
  rcases place_cases hp with rfl | rfl | rfl <;> rfl

/-! ## Marks -/

/-- A revision that has been carried out is the new mark. -/
theorem afterUpgrade_marksAt {p : Nat} (hp : p < head) :
    Marks.apply (marksAt p) (Marks.afterUpgrade (marksAt p) (p + 1)) = .ok (marksAt (p + 1)) := by
  rcases place_cases hp with h | h | h <;> cases h <;> rfl

/-- When a revision has been taken back, the mark is that of the one below. -/
theorem afterDowngrade_marksAt {p : Nat} (hp : p < head) :
    ∃ change, Marks.afterDowngrade (marksAt (p + 1)) (p + 1) = .ok change ∧
      Marks.apply (marksAt (p + 1)) change = .ok (marksAt p) := by
  rcases place_cases hp with h | h | h <;> cases h <;> exact ⟨_, rfl, rfl⟩

end Migration
end TaskRules
