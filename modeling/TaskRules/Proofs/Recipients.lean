import Mathlib.Data.List.Basic
import Mathlib.Data.List.Induction
import TaskRules.Action.Config
import TaskRules.Proofs.CheckedForms

/-!
Who a notification goes to, and which configurations say so. The recipients are the single user and
then the listed ones, without the empty ids and without repeats, in the order in which they are
first named. A configuration is refused when a field is not of its form, and when it leaves nobody.

Proved:
- `optional_ok_iff`, `required_filledText_iff`, `nullable_text_ok_iff`, `list_text_ok_iff`: what a
  check takes, exactly.
- `distinct_ordered`: the first occurrences are in order.
- `recipients_first`: the recipients of a configuration.
- `read_sendNotification_iff`: which configurations are accepted.
-/

namespace TaskRules.Schema

/-! ## What a check takes -/

/-- The value that is given under the first of some names. -/
def given (fields : Json.Fields) (names : List String) : Option Json :=
  (find? fields names).map (·.2)

theorem and_ok_iff {f : Checked (α → β)} {x : Checked α} {b : β} :
    f.and x = .ok b ↔ ∃ g a, f = .ok g ∧ x = .ok a ∧ g a = b := by
  refine ⟨and_ok, ?_⟩
  rintro ⟨g, a, rfl, rfl, rfl⟩
  rfl

theorem also_ok_iff {x : Checked α} {f : α → Checked β} {b : β} :
    x.also f = .ok b ↔ ∃ a, x = .ok a ∧ f a = .ok b := by
  refine ⟨also_ok, ?_⟩
  rintro ⟨a, rfl, h⟩
  exact h

theorem under_ok_iff {x : Checked α} {step : Step} {a : α} :
    x.under step = .ok a ↔ x = .ok a := by
  refine ⟨under_ok, ?_⟩
  rintro rfl
  rfl

/-- A value that a field has: its default when nothing is given, and else the one that is written
there. -/
inductive Gives (write : α → Json) (default : α) : Option Json → α → Prop
  | absent : Gives write default none default
  | written (a : α) : Gives write default (some (write a)) a

/-- A field with a default, whose check takes a value just as it is written. -/
theorem optional_ok_iff {fields : Json.Fields} {names : List String} {default a : α}
    {check : Json → Checked α} {write : α → Json} (exact : ∀ v a, check v = .ok a ↔ v = write a) :
    optional fields names default check = .ok a ↔
      Gives write default (given fields names) a := by
  unfold optional given
  cases find? fields names with
  | none =>
    refine ⟨fun h => ?_, fun h => ?_⟩
    · cases h
      exact .absent
    · cases h
      rfl
  | some f =>
    obtain ⟨name, v⟩ := f
    show Checked.under _ (check v) = _ ↔ Gives write default (some v) a
    rw [under_ok_iff, exact]
    refine ⟨fun h => h ▸ .written a, fun h => ?_⟩
    cases h
    rfl

theorem text_ok_iff {v : Json} {s : String} : text v = .ok s ↔ v = .str s := by
  cases v <;> simp [text, Checked.fail]

theorem nullable_text_ok_iff {v : Json} {o : Option String} :
    nullable text v = .ok o ↔ v = .ofText? o := by
  cases v with
  | null => cases o <;> simp [nullable, Json.ofText?, Json.ofOption]
  | str s => cases o <;> simp [nullable, text, Checked.also, Json.ofText?, Json.ofOption]
  | _ => cases o <;> simp [nullable, text, Checked.also, Checked.fail, Json.ofText?, Json.ofOption]

theorem itemsFrom_text_ok_iff {items : List Json} {n : Nat} {ids : List String} :
    itemsFrom text n items = .ok ids ↔ items = ids.map .str := by
  induction items generalizing n ids with
  | nil => cases ids <;> simp [itemsFrom]
  | cons v rest ih =>
    rw [itemsFrom, and_ok_iff]
    constructor
    · rintro ⟨g, others, hg, hothers, rfl⟩
      obtain ⟨h, s, ⟨⟩, hs, rfl⟩ := and_ok hg
      rw [ih.mp hothers, text_ok_iff.mp (under_ok hs), List.map_cons]
    · intro same
      cases ids with
      | nil => cases same
      | cons s others =>
        obtain ⟨rfl, hothers⟩ := List.cons.inj same
        exact ⟨List.cons s, others, rfl, ih.mpr hothers, rfl⟩

theorem list_text_ok_iff {v : Json} {ids : List String} :
    list text v = .ok ids ↔ v = .arr (ids.map .str) := by
  cases v with
  | arr items => rw [list, itemsFrom_text_ok_iff, Json.arr.injEq]
  | _ => simp [list, Checked.fail]

theorem filledText_ok_iff {v : Json} {s : String} :
    filledText v = .ok s ↔ v = .str s ∧ Text.isWhole s.toList = true ∧ s ≠ "" := by
  constructor
  · intro h
    refine ⟨?_, filledText_whole h, filledText_ok h⟩
    obtain ⟨t, ht, h⟩ := also_ok h
    obtain ⟨u, hu, ht⟩ := also_ok ht
    rw [text_ok_iff] at hu
    unfold unicode at ht
    split at ht <;> cases ht
    split at h <;> cases h
    exact hu
  · rintro ⟨rfl, whole, filled⟩
    simp only [filledText, text, Checked.also, unicode, if_pos whole, if_neg filled]

/-- A text that has to be there. -/
theorem required_filledText_iff {fields : Json.Fields} {names : List String} {s : String} :
    required fields names filledText = .ok s ↔
      given fields names = some (.str s) ∧ Text.isWhole s.toList = true ∧ s ≠ "" := by
  unfold required given
  cases find? fields names with
  | none => simp
  | some f => simp [under_ok_iff, filledText_ok_iff]

end TaskRules.Schema

namespace TaskRules.Action
open Schema (given Gives and_ok optional_ok_iff text_ok_iff nullable_text_ok_iff list_text_ok_iff
  required_filledText_iff)

/-! ## First appearances -/

/-- The ids of a list that are not empty, each once, in the order in which they first appear. -/
structure FirstNamed (named ids : List String) : Prop where
  once : ids.Nodup
  mem : ∀ id, id ∈ ids ↔ id ∈ named ∧ id ≠ ""
  ordered : ids.Pairwise fun a b => named.idxOf a < named.idxOf b

theorem distinct_concat (ids : List String) (id : String) :
    distinct (ids ++ [id]) = if id ∈ distinct ids then distinct ids else distinct ids ++ [id] := by
  simp only [distinct, List.foldl_append, List.foldl_cons, List.foldl_nil, List.mem_reverse,
    List.contains_iff_mem]
  split
  · rfl
  · rw [List.reverse_cons]

theorem mem_distinct {ids : List String} {id : String} : id ∈ distinct ids ↔ id ∈ ids := by
  induction ids using List.reverseRecOn generalizing id with
  | nil => rfl
  | append_singleton ids last ih =>
    rw [distinct_concat, List.mem_append, List.mem_singleton]
    split
    · rename_i seen
      rw [ih]
      refine ⟨.inl, fun h => h.elim (fun h => h) ?_⟩
      rintro rfl
      exact ih.mp seen
    · rw [List.mem_append, List.mem_singleton, ih]

theorem distinct_ordered (ids : List String) :
    (distinct ids).Pairwise fun a b => ids.idxOf a < ids.idxOf b := by
  induction ids using List.reverseRecOn with
  | nil => exact .nil
  | append_singleton ids last ih =>
    -- an id has its place in the list before, whatever is added
    have placed : ∀ id ∈ distinct ids, (ids ++ [last]).idxOf id = ids.idxOf id :=
      fun id h => List.idxOf_append_of_mem (mem_distinct.mp h)
    have before : (distinct ids).Pairwise
        fun a b => (ids ++ [last]).idxOf a < (ids ++ [last]).idxOf b := by
      refine ih.imp_of_mem fun ha hb h => ?_
      rwa [placed _ ha, placed _ hb]
    rw [distinct_concat]
    split
    · exact before
    · rename_i unseen
      have new : last ∉ ids := fun h => unseen (mem_distinct.mpr h)
      refine List.pairwise_append.mpr ⟨before, List.pairwise_singleton .., fun a ha b hb => ?_⟩
      obtain rfl := List.mem_singleton.mp hb
      rw [placed a ha, List.idxOf_append_of_notMem new]
      have := List.idxOf_lt_length_iff.mpr (mem_distinct.mp ha)
      omega

theorem distinct_nodup (ids : List String) : (distinct ids).Nodup :=
  (distinct_ordered ids).imp fun before same => absurd (same ▸ before) (Nat.lt_irrefl _)

theorem cleaned_first (ids : List String) : FirstNamed ids (cleaned ids) where
  once := (distinct_nodup ids).filter _
  mem id := by simp [cleaned, mem_distinct]
  ordered := (distinct_ordered ids).filter _

/-- An empty id in front names nobody. -/
theorem FirstNamed.blank {named ids : List String} (h : FirstNamed named ids) :
    FirstNamed ("" :: named) ids where
  once := h.once
  mem id := by
    rw [h.mem, List.mem_cons]
    refine ⟨fun ⟨among, filled⟩ => ⟨.inr among, filled⟩, fun ⟨among, filled⟩ => ⟨?_, filled⟩⟩
    exact among.resolve_left filled
  ordered := by
    refine h.ordered.imp_of_mem fun ha hb before => ?_
    rw [List.idxOf_cons_ne named ((h.mem _).mp ha).2.symm,
      List.idxOf_cons_ne named ((h.mem _).mp hb).2.symm]
    exact Nat.succ_lt_succ before

/-! ## Recipients -/

/-- The ids that a configuration names: the single user, and then the listed ones. -/
def SendNotification.named (c : SendNotification) : List String := c.userId.toList ++ c.userIds

theorem recipients_first (c : SendNotification) : FirstNamed c.named c.recipients := by
  unfold SendNotification.named SendNotification.recipients
  cases c.userId with
  | none => exact cleaned_first _
  | some id =>
    dsimp only
    split
    · rename_i blank
      subst blank
      exact (cleaned_first c.userIds).blank
    · exact cleaned_first _

theorem recipients_eq_nil_iff {c : SendNotification} :
    c.recipients = [] ↔ ∀ id ∈ c.named, id = "" := by
  rw [List.eq_nil_iff_forall_not_mem]
  simp only [(recipients_first c).mem, not_and, not_not]

/-! ## Accepted configurations -/

/-- Fields that are all of their forms. -/
structure SendNotification.Formed (fields : Json.Fields) (c : SendNotification) : Prop where
  userId : Gives .ofText? none (given fields ["userId", "user_id"]) c.userId
  userIds : Gives textsJson [] (given fields ["userIds", "user_ids"]) c.userIds
  message : given fields ["message"] = some (.str c.message)
  worded : c.message ≠ ""
  whole : Text.isWhole c.message.toList = true
  title : Gives .str "Automation Notification" (given fields ["title"]) c.title
  type : Gives .str "AUTOMATION" (given fields ["type"]) c.type

theorem readSendNotification_iff {fields : Json.Fields} {c : SendNotification} :
    readSendNotification fields = .ok c ↔
      SendNotification.Formed fields c ∧ ∃ id ∈ c.named, id ≠ "" := by
  have somebody : c.recipients.isEmpty = false ↔ ∃ id ∈ c.named, id ≠ "" := by
    rw [← Bool.not_eq_true, List.isEmpty_iff, recipients_eq_nil_iff]
    simp only [not_forall, exists_prop]
  unfold readSendNotification
  rw [Schema.also_ok_iff, ← somebody]
  constructor
  · rintro ⟨d, hd, hc⟩
    obtain ⟨_, type, hd₄, htype, rfl⟩ := and_ok hd
    obtain ⟨_, title, hd₃, htitle, rfl⟩ := and_ok hd₄
    obtain ⟨_, message, hd₂, hmessage, rfl⟩ := and_ok hd₃
    obtain ⟨_, userIds, hd₁, huserIds, rfl⟩ := and_ok hd₂
    obtain ⟨_, userId, ⟨⟩, huserId, rfl⟩ := and_ok hd₁
    obtain ⟨present, whole, worded⟩ := required_filledText_iff.mp hmessage
    split at hc
    · cases hc
    · rename_i left
      cases hc
      refine ⟨⟨?_, ?_, present, worded, whole, ?_, ?_⟩, by simpa using left⟩
      · exact (optional_ok_iff fun _ _ => nullable_text_ok_iff).mp huserId
      · exact (optional_ok_iff fun _ _ => list_text_ok_iff).mp huserIds
      · exact (optional_ok_iff fun _ _ => text_ok_iff).mp htitle
      · exact (optional_ok_iff fun _ _ => text_ok_iff).mp htype
  · rintro ⟨formed, left⟩
    refine ⟨c, ?_, ?_⟩
    · rw [(optional_ok_iff fun _ _ => nullable_text_ok_iff).mpr formed.userId,
        (optional_ok_iff fun _ _ => list_text_ok_iff).mpr formed.userIds,
        required_filledText_iff.mpr ⟨formed.message, formed.whole, formed.worded⟩,
        (optional_ok_iff fun _ _ => text_ok_iff).mpr formed.title,
        (optional_ok_iff fun _ _ => text_ok_iff).mpr formed.type]
      rfl
    · rw [left]
      rfl

/-- A configuration is accepted when its fields are of their forms and name somebody. -/
theorem read_sendNotification_iff {config : Json} {c : SendNotification} :
    read .sendNotification config = .ok (.sendNotification c) ↔
      ∃ fields, config = .obj fields ∧ SendNotification.Formed fields c ∧
        ∃ id ∈ c.named, id ≠ "" := by
  rw [read, Schema.also_ok_iff]
  constructor
  · rintro ⟨fields, object, hread⟩
    obtain ⟨d, hd, same⟩ := Schema.map_ok hread
    cases same
    cases config <;> cases object
    exact ⟨fields, rfl, readSendNotification_iff.mp hd⟩
  · rintro ⟨fields, rfl, accepted⟩
    refine ⟨fields, rfl, ?_⟩
    rw [readFields, readSendNotification_iff.mpr accepted]
    rfl

end TaskRules.Action
