import TaskRules.Proofs.CheckedForms
import TaskRules.Proofs.JsonReading
import TaskRules.Queue.Delivery

/-!
Jobs in messages. A message is written as plain JSON, with null in place of numbers that are not
finite, and read by the same schema that reads the first message of a job.

Proved:
- `finite_eq_iff`: plain JSON changes a value exactly when it has a number that is not finite.
- `isReceived_of_job`: what is known of every job that a message is read as.
- `message_eq`, `job_of_text`: such a job without lone halves is written, and its text is read as
  the same job.
- `IsReceived.again`, `HoldsCharacters.again`: the job with the next attempt can be written as
  well.
-/

namespace TaskRules

namespace Text

/-- Whether no character of a text takes part in pairs. -/
def isSmall (cs : List Char) : Bool := cs.all fun c => c.toNat < firstTrail

theorem ofCharacters_small {cs : List Char} (h : isSmall cs = true) : OfCharacters cs := by
  have small : ∀ c ∈ cs, c.toNat < firstTrail := by simpa [isSmall] using h
  clear h
  refine ⟨cs, ?_⟩
  induction cs with
  | nil => rfl
  | cons c rest ih =>
    have hc := small c (List.mem_cons_self ..)
    have hplain : ofPoint c.toNat = [c] := by
      unfold ofPoint pairPlace?
      rw [isHalf_toNat, if_neg (by decide), if_neg (by omega)]
      dsimp only
      rw [Char.ofNat_toNat]
    show c :: rest = ofPoint c.toNat ++ ofChars rest
    rw [hplain, ← ih fun d hd => small d (List.mem_cons_of_mem _ hd)]
    rfl

theorem isWhole_ofCharacters {cs : List Char} (h : OfCharacters cs) : isWhole cs = true := by
  obtain ⟨chars, rfl⟩ := h
  rw [isWhole, points_ofChars, List.all_map, List.all_eq_true]
  intro c _
  simp [isHalf_toNat]

end Text

namespace Json

/-! ## Plain JSON -/

theorem finiteItems_eq (items : List Json) : finiteItems items = items.map finite := by
  induction items with
  | nil => rfl
  | cons v rest ih => rw [finiteItems, ih]; rfl

theorem finiteFields_eq (fields : Fields) :
    finiteFields fields = fields.map fun f => (f.1, f.2.finite) := by
  induction fields with
  | nil => rfl
  | cons f rest ih => obtain ⟨k, v⟩ := f; rw [finiteFields, ih]; rfl

theorem finiteFields_names (fields : Fields) :
    Fields.names (finiteFields fields) = Fields.names fields := by
  rw [finiteFields_eq, Fields.names, List.map_map]
  rfl

/-- A value stays writable with null in place of numbers that are not finite. -/
theorem IsWritable.finite {v : Json} (h : v.IsWritable) : v.finite.IsWritable := by
  unfold IsWritable at h
  induction h with
  | null hp => exact .null hp
  | bool hp => exact .bool hp
  | int hp => exact .int hp
  | @double x hp =>
    show Throughout _ (if x.isFinite then Json.double x else .null)
    split
    · exact .double hp
    · exact .null ⟨trivial, trivial⟩
  | str hp => exact .str hp
  | arr hp _ ih =>
    refine .arr ⟨trivial, trivial⟩ fun v hv => ?_
    rw [finiteItems_eq] at hv
    obtain ⟨w, hw, rfl⟩ := List.mem_map.mp hv
    exact ih w hw
  | obj hp _ ih =>
    refine .obj ⟨?_, ?_⟩ fun f hf => ?_
    · rw [IsReadable, finiteFields_names]
      exact hp.1
    · rw [HoldsCharacters, finiteFields_names]
      exact hp.2
    · rw [finiteFields_eq] at hf
      obtain ⟨g, hg, rfl⟩ := List.mem_map.mp hf
      exact ih g hg

mutual
/-- Values of which nothing becomes null are those whose numbers are finite. -/
theorem finite_eq_iff : ∀ v : Json, v.finite = v ↔ v.isFinite = true
  | .null => ⟨fun _ => rfl, fun _ => rfl⟩
  | .bool _ => ⟨fun _ => rfl, fun _ => rfl⟩
  | .int _ => ⟨fun _ => rfl, fun _ => rfl⟩
  | .double x => by
    show (if x.isFinite then Json.double x else .null) = .double x ↔ x.isFinite = true
    split <;> simp_all
  | .str _ => ⟨fun _ => rfl, fun _ => rfl⟩
  | .arr items => by
    rw [finite, isFinite, every, Json.arr.injEq]
    exact finiteItems_eq_iff items
  | .obj fields => by
    rw [finite, isFinite, every, Json.obj.injEq]
    exact finiteFields_eq_iff fields

theorem finiteItems_eq_iff : ∀ items : List Json,
    finiteItems items = items ↔ everyItem (fun | .double x => x.isFinite | _ => true) items = true
  | [] => ⟨fun _ => rfl, fun _ => rfl⟩
  | v :: rest => by
    rw [finiteItems, everyItem, List.cons.injEq, Bool.and_eq_true]
    exact and_congr (finite_eq_iff v) (finiteItems_eq_iff rest)

theorem finiteFields_eq_iff : ∀ fields : List (String × Json),
    finiteFields fields = fields ↔
      everyField (fun | .double x => x.isFinite | _ => true) fields = true
  | [] => ⟨fun _ => rfl, fun _ => rfl⟩
  | (k, v) :: rest => by
    rw [finiteFields, everyField, List.cons.injEq, Prod.mk.injEq, Bool.and_eq_true,
      Bool.and_eq_true]
    simp only [true_and]
    exact and_congr (finite_eq_iff v) (finiteFields_eq_iff rest)
end

theorem brokenNameIn_none {items : List Json} (h : ∀ v ∈ items, brokenName? v = none) :
    brokenNameIn? items = none := by
  induction items with
  | nil => rfl
  | cons v rest ih =>
    rw [brokenNameIn?, h v (List.mem_cons_self ..)]
    exact ih fun w hw => h w (List.mem_cons_of_mem _ hw)

theorem brokenNameUnder_none {fields : Fields}
    (h : ∀ f ∈ fields, Text.isWhole f.1.toList = true ∧ brokenName? f.2 = none) :
    brokenNameUnder? fields = none := by
  induction fields with
  | nil => rfl
  | cons f rest ih =>
    obtain ⟨k, v⟩ := f
    obtain ⟨hk, hv⟩ : Text.isWhole k.toList = true ∧ brokenName? v = none :=
      h (k, v) (List.mem_cons_self ..)
    rw [brokenNameUnder?, if_pos hk, hv]
    exact ih fun g hg => h g (List.mem_cons_of_mem _ hg)

/-- Names of characters are no broken names. -/
theorem brokenName_none {v : Json} (h : v.Throughout HoldsCharacters) : brokenName? v = none := by
  induction h with
  | null => rfl
  | bool => rfl
  | int => rfl
  | double => rfl
  | str => rfl
  | arr _ _ ih => exact brokenNameIn_none ih
  | obj hp _ ih =>
    refine brokenNameUnder_none fun f hf => ⟨?_, ih f hf⟩
    exact Text.isWhole_ofCharacters (hp f.1 (List.mem_map_of_mem hf))

theorem readableName_eq {name : String} (h : Text.OfCharacters name.toList) :
    readableName name = name := by
  obtain ⟨chars, hs⟩ := h
  rw [readableName, hs, Text.points_ofChars, List.flatMap_map]
  simp only [Text.isHalf_toNat]
  calc String.ofList (chars.flatMap fun c => Text.ofPoint c.toNat)
      = String.ofList (Text.ofChars chars) := by rw [Text.ofChars, Text.ofPoints, List.flatMap_map]
    _ = name := by rw [← hs, String.ofList_toList]

/-- Fields of characters in plain JSON: only numbers that are not finite change. -/
theorem plain_eq {fields : Fields} (h : (obj fields).Throughout HoldsCharacters)
    (hn : (Fields.names fields).Nodup) : plain fields = .ok (.obj (finiteFields fields)) := by
  have hnames : ∀ f ∈ fields, Text.OfCharacters f.1.toList := fun f hf =>
    h.here f.1 (List.mem_map_of_mem hf)
  have hbroken : brokenNameIn? (fields.map (·.2)) = none := by
    refine brokenNameIn_none fun v hv => ?_
    obtain ⟨f, hf, rfl⟩ := List.mem_map.mp hv
    exact brokenName_none (h.fields f hf)
  have hmap : (fields.map fun p => (readableName p.1, p.2.finite)) = finiteFields fields := by
    rw [finiteFields_eq]
    exact List.map_congr_left fun f hf => by rw [readableName_eq (hnames f hf)]
  rw [plain, hbroken]
  dsimp only
  rw [hmap, ofPairs_nodup (by rw [finiteFields_names]; exact hn)]

end Json

namespace Job

/-! ## Jobs in messages -/

/-- A job that was read from a message: a rule is named, the trigger is one of those there are, the
data is an object that was read, and the attempts are counted from one. -/
structure IsReceived (j : Job) : Prop where
  ruleId : j.ruleId ≠ ""
  triggerType : j.triggerType ∈ triggerTypes
  data : (Json.obj j.triggerData).Throughout Json.IsReadable
  attempt : 1 ≤ j.attempt

/-- The strings of a job hold no halves of surrogate pairs. -/
structure HoldsCharacters (j : Job) : Prop where
  ruleId : Text.OfCharacters j.ruleId.toList
  data : (Json.obj j.triggerData).Throughout Json.HoldsCharacters
  triggeredBy : ∀ s ∈ j.triggeredBy, Text.OfCharacters s.toList
  jobId : ∀ s ∈ j.jobId, Text.OfCharacters s.toList

theorem read_isReceived {v : Json} {j : Job} (hv : v.Throughout Json.IsReadable)
    (h : Job.read v = .ok j) : j.IsReceived := by
  obtain ⟨fields, hfields, h⟩ := Schema.also_ok h
  have hobj : v = .obj fields := by
    cases v <;> cases hfields
    rfl
  subst hobj
  obtain ⟨_, attempt, h1, hattempt, rfl⟩ := Schema.and_ok h
  obtain ⟨_, jobId, h2, -, rfl⟩ := Schema.and_ok h1
  obtain ⟨_, triggeredBy, h3, -, rfl⟩ := Schema.and_ok h2
  obtain ⟨_, data, h4, hdata, rfl⟩ := Schema.and_ok h3
  obtain ⟨_, triggerType, h5, htype, rfl⟩ := Schema.and_ok h4
  obtain ⟨_, ruleId, h6, hrule, rfl⟩ := Schema.and_ok h5
  cases h6
  constructor
  · obtain ⟨f, -, hf⟩ := Schema.required_ok hrule
    exact Schema.filledText_ok hf
  · obtain ⟨f, -, hf⟩ := Schema.required_ok htype
    exact Schema.oneOf_ok hf
  · rcases Schema.optional_ok hdata with rfl | ⟨f, hf, hcheck⟩
    · exact .obj List.nodup_nil fun f hf => by cases hf
    · have := hv.fields f hf
      rwa [Schema.object_ok hcheck] at this
  · rcases Schema.optional_ok hattempt with rfl | ⟨f, -, hf⟩
    · exact Int.le_refl 1
    · exact Schema.wholeFrom_ok hf

/-- The job of a message was received. -/
theorem isReceived_of_job {raw : Queue.Raw} {j : Job} (h : raw.job? = some j) : j.IsReceived := by
  unfold Queue.Raw.job? at h
  split at h
  · cases h
  · split at h
    · cases h
    · rename_i v hread
      cases hjob : Job.read v with
      | error problems => rw [hjob] at h; cases h
      | ok k =>
        rw [hjob] at h
        cases h
        exact read_isReceived (Json.read_readable hread) hjob

/-- A text under a name, if there is one. -/
def textField (name : String) : Option String → Json.Fields
  | none => []
  | some s => [(name, .str s)]

/-- The fields that write a job. -/
def messageFields (j : Job) : Json.Fields :=
  [("ruleId", .str j.ruleId), ("triggerType", .str j.triggerType),
    ("triggerData", .obj j.triggerData)] ++
    textField "triggeredById" j.triggeredBy ++ textField "jobId" j.jobId ++
    [("attempt", .int j.attempt)]

/-- The job with null in place of numbers that are not finite. -/
def finite (j : Job) : Job := { j with triggerData := Json.finiteFields j.triggerData }

theorem messageFields_names (j : Job) :
    ∀ name ∈ Json.Fields.names j.messageFields, Text.isSmall name.toList = true := by
  unfold messageFields
  cases j.triggeredBy <;> cases j.jobId <;>
    simp only [textField, Json.Fields.names, List.append_nil, List.cons_append, List.nil_append,
      List.map_cons, List.map_nil] <;> decide

theorem messageFields_nodup (j : Job) : (Json.Fields.names j.messageFields).Nodup := by
  unfold messageFields
  cases j.triggeredBy <;> cases j.jobId <;>
    simp only [textField, Json.Fields.names, List.append_nil, List.cons_append, List.nil_append,
      List.map_cons, List.map_nil] <;> decide

section Messages
variable {j : Job} (hr : j.IsReceived) (hc : j.HoldsCharacters)
include hr hc

/-- A job's message writes the job with null in place of numbers that are not finite. -/
theorem message_eq : j.message = .ok (.obj j.finite.messageFields) := by
  have hplain := Json.plain_eq hc.data hr.data.here
  unfold message toFields messageFields finite
  rw [hplain]
  cases j.triggeredBy <;> cases j.jobId <;> rfl

theorem messageFields_isWritable (ha : j.attempt.natAbs < 10 ^ Json.maxDigits) :
    (Json.obj j.messageFields).IsWritable := by
  have hdata : (Json.obj j.triggerData).IsWritable := hr.data.and hc.data
  have htype : Text.OfCharacters j.triggerType.toList := by
    have hall : ∀ s ∈ triggerTypes, Text.isSmall s.toList = true := by decide
    exact Text.ofCharacters_small (hall _ hr.triggerType)
  have htext : ∀ (name : String) (s : Option String), (∀ t ∈ s, Text.OfCharacters t.toList) →
      ∀ f ∈ textField name s, f.2.IsWritable := by
    intro name s hs f hf
    cases s with
    | none => cases hf
    | some t =>
      rw [List.mem_singleton.mp hf]
      exact .str ⟨trivial, hs t rfl⟩
  refine .obj ⟨messageFields_nodup j, fun name hname =>
    Text.ofCharacters_small (messageFields_names j name hname)⟩ fun f hf => ?_
  simp only [messageFields, List.mem_append, List.mem_cons, List.not_mem_nil, or_false] at hf
  rcases hf with ((((rfl | rfl | rfl) | hf) | hf) | rfl)
  · exact .str ⟨trivial, hc.ruleId⟩
  · exact .str ⟨trivial, htype⟩
  · exact hdata
  · exact htext _ _ hc.triggeredBy f hf
  · exact htext _ _ hc.jobId f hf
  · exact .int ⟨ha, trivial⟩

theorem read_messageFields : Job.read (.obj j.messageFields) = .ok j := by
  have hrule : Schema.filledText (.str j.ruleId) = .ok j.ruleId := by
    show (Schema.unicode j.ruleId).also _ = _
    rw [Schema.unicode, if_pos (Text.isWhole_ofCharacters hc.ruleId)]
    exact if_neg hr.ruleId
  have htype : Schema.oneOf triggerTypes (.str j.triggerType) = .ok j.triggerType := by
    have hall : ∀ s ∈ triggerTypes, Schema.oneOf triggerTypes (.str s) = .ok s := by decide
    exact hall _ hr.triggerType
  have hattempt : Schema.wholeFrom 1 (.int j.attempt) = .ok j.attempt := by
    exact if_neg (by have := hr.attempt; omega)
  show Job.readFields j.messageFields = _
  obtain ⟨ruleId, triggerType, data, triggeredBy, jobId, attempt⟩ := j
  cases triggeredBy <;> cases jobId <;>
    simp [messageFields, textField, Job.readFields, Schema.required, Schema.optional, Schema.find?,
      Json.Fields.get?, hrule, htype, hattempt, Schema.object, Schema.nullable, Schema.text,
      Schema.Checked.and, Schema.Checked.under, Schema.Checked.also]

/-- A job is read from a message that writes it. -/
theorem job_of_text (ha : j.attempt.natAbs < 10 ^ Json.maxDigits) {raw : Queue.Raw}
    (ht : raw.text? = some (Json.obj j.messageFields).text) : raw.job? = some j := by
  rw [Queue.Raw.job?, ht]
  dsimp only
  rw [Json.read_text (messageFields_isWritable hr hc ha)]
  dsimp only
  rw [read_messageFields hr hc]
  rfl

end Messages

theorem IsReceived.again {j : Job} (h : j.IsReceived) : j.again.IsReceived :=
  ⟨h.ruleId, h.triggerType, h.data, by have := h.attempt; show (1 : Int) ≤ j.attempt + 1; omega⟩

section Finite
variable {j : Job} (hr : j.IsReceived) (hc : j.HoldsCharacters)
include hr hc

theorem finite_isWritable : (Json.obj j.finite.triggerData).IsWritable :=
  Json.IsWritable.finite (hr.data.and hc.data)

theorem IsReceived.finite : j.finite.IsReceived :=
  ⟨hr.ruleId, hr.triggerType, (finite_isWritable hr hc).imp fun _ h => h.1, hr.attempt⟩

theorem HoldsCharacters.finite : j.finite.HoldsCharacters :=
  ⟨hc.ruleId, (finite_isWritable hr hc).imp fun _ h => h.2, hc.triggeredBy, hc.jobId⟩

end Finite

theorem HoldsCharacters.again {j : Job} (h : j.HoldsCharacters) : j.again.HoldsCharacters :=
  ⟨h.ruleId, h.data, h.triggeredBy, h.jobId⟩

end Job
end TaskRules
