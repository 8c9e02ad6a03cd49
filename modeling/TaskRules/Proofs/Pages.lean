import TaskRules.Proofs.RecordOrder
import TaskRules.Proofs.RuleSwitches

/-!
Listings page by page. The records of a rule are put in order, cut into pages of one size and shown;
the pages of a listing that nothing is written to in between hold every record once.

Proved:
- `flatMap_pages`: the pages of a list, put together, are the list.
- `showRecords_of_shows`, `shows_of_presentable`: which records are shown.
- `listRecords_page`: the page that a listing gives.
- `pages_partition`: the pages of a listing hold the records that it matches, each once and in
  order, and are full except for the last one.
- `a_listing_can_fail`: a listing of a rule that is not stored, of a record with a lone half, or of
  pages with a size beyond 64 bits has no pages.
-/

namespace TaskRules

/-! ## Pages of a list -/

/-- The items of a page. -/
def Page.slice (p : Page) (rows : List α) : List α := Store.window p.offset p.size rows

/-- How many pages of a size some items fill. -/
def pageCount (total size : Nat) : Nat := (total + size - 1) / size

theorem le_pageCount {total size : Nat} (h : 0 < size) : total ≤ pageCount total size * size := by
  have division := Nat.div_add_mod (total + size - 1) size
  have rest := Nat.mod_lt (total + size - 1) h
  rw [pageCount, Nat.mul_comm]
  omega

theorem lt_of_lt_pageCount {total size k : Nat} (h : k < pageCount total size) :
    k * size < total := by
  have above : (k + 1) * size ≤ pageCount total size * size := Nat.mul_le_mul_right size h
  have below : pageCount total size * size ≤ total + size - 1 := Nat.div_mul_le_self ..
  rw [Nat.succ_mul] at above
  rcases Nat.eq_zero_or_pos size with rfl | positive
  · simp [pageCount] at h
  · omega

namespace Page

theorem slice_eq (size k : Nat) (rows : List α) :
    slice ⟨k + 1, size⟩ rows = (rows.drop (k * size)).take size := by
  have offset : ((k + 1 : Int) - 1) * size = (k * size : Nat) := by
    simp
  have nonneg : ¬ (size : Int) < 0 := by omega
  rw [slice, Page.offset, offset, Store.window, if_neg nonneg]
  rfl

theorem flatMap_pages (size m : Nat) (rows : List α) :
    ((List.range m).flatMap fun (k : Nat) => slice ⟨k + 1, size⟩ rows) = rows.take (m * size) := by
  induction m with
  | zero => simp
  | succ m ih =>
    rw [List.range_succ, List.flatMap_append, ih, List.flatMap_singleton, slice_eq, Nat.succ_mul,
      List.take_add]

/-- The pages that some items fill, put together, are the items. -/
theorem flatMap_all {size : Nat} (h : 0 < size) (rows : List α) :
    ((List.range (pageCount rows.length size)).flatMap fun (k : Nat) => slice ⟨k + 1, size⟩ rows) =
      rows := by
  rw [flatMap_pages, List.take_of_length_le (le_pageCount h)]

theorem slice_length_le (size k : Nat) (rows : List α) :
    (slice ⟨k + 1, size⟩ rows).length ≤ size := by
  rw [slice_eq, List.length_take]
  exact Nat.min_le_left ..

/-- A page before the last one is full. -/
theorem slice_full {size k : Nat} {rows : List α} (h : k + 1 < pageCount rows.length size) :
    (slice ⟨k + 1, size⟩ rows).length = size := by
  have more := lt_of_lt_pageCount h
  rw [Nat.succ_mul] at more
  rw [slice_eq, List.length_take, List.length_drop]
  omega

/-- A page after the last one is empty. -/
theorem slice_beyond {size k : Nat} (positive : 0 < size) {rows : List α}
    (h : pageCount rows.length size ≤ k) : slice ⟨k + 1, size⟩ rows = [] := by
  have all : rows.length ≤ k * size :=
    Nat.le_trans (le_pageCount positive) (Nat.mul_le_mul_right size h)
  rw [slice_eq, List.drop_eq_nil_of_le all, List.take_nil]

theorem mem_of_mem_slice {p : Page} {rows : List α} {a : α} (h : a ∈ p.slice rows) :
    a ∈ rows := by
  unfold slice Store.window at h
  split at h
  · exact List.mem_of_mem_drop h
  · exact List.mem_of_mem_drop (List.mem_of_mem_take h)

theorem cap_positive {e : Environment} {n : Int} (h : cap e = .ok n) : 1 ≤ n := by
  unfold cap at h
  dsimp only at h
  split at h
  · split at h
    · rename_i m _
      obtain rfl := Except.ok.inj h
      by_cases small : m < 1
      · rw [if_pos small]
        decide
      · rw [if_neg small]
        omega
    · cases h
  · cases h
    decide

end Page

/-! ## Showing records -/

/-- A record that can be shown: its trigger data is an object or empty, its result an object or
null, its duration whole, and its texts have no lone halves. -/
structure Execution.Presentable (e : Execution) : Prop where
  data : ∃ fields, e.handedOut.triggerData = .obj fields
  result : ∃ fields, e.actionResult = Json.ofOption .obj fields
  elapsed : ∃ n, Schema.whole e.handedOut.elapsedMs.toJson = .ok n
  whole : (Json.obj e.handedOut.toFields).isUnicode = true

namespace ExecutionView

/-- The view of a record with its trigger data, its result and its duration as they are shown. -/
def viewed (e : Execution) (data : Json.Fields) (result : Option Json.Fields) (elapsed : Int) :
    ExecutionView where
  id := e.id
  ruleId := e.ruleId
  triggerType := e.triggerType
  triggerData := data
  actionResult := result
  success := e.success
  outcome := e.outcome
  elapsedMs := elapsed
  errorMessage := e.errorMessage
  triggeredBy := e.triggeredById
  createdBy := e.createdBy
  jobId := e.jobId
  createdAt := some (.plain e.createdAt)

/-- A record that can be shown has a view, whose fields can be written. -/
theorem ofRecord_presentable {e : Execution} (h : e.Presentable) :
    ∃ view fields, ofRecord e.handedOut = .ok view ∧ view.toFields = .ok fields ∧
      Json.Fields.get? fields "id" = some (.str e.id) ∧ (Json.obj fields).isUnicode = true := by
  obtain ⟨data, hdata⟩ := h.data
  obtain ⟨result, hresult⟩ := h.result
  obtain ⟨elapsed, helapsed⟩ := h.elapsed
  have whole := h.whole
  have same : e.handedOut.actionResult = e.actionResult := rfl
  simp only [Execution.toFields, Json.isUnicode_obj, hdata, same, hresult, List.all_cons,
    List.all_nil, Bool.and_true, Bool.and_eq_true] at whole
  obtain ⟨⟨-, id⟩, ⟨-, ruleId⟩, ⟨-, triggerType⟩, ⟨-, wdata⟩, ⟨-, wresult⟩, ⟨-, success⟩,
    ⟨-, outcome⟩, -, ⟨-, errorMessage⟩, ⟨-, triggeredBy⟩, ⟨-, createdBy⟩, ⟨-, jobId⟩, -⟩ := whole
  rw [← Json.isUnicode_obj] at wdata
  obtain ⟨shownData, pdata, udata⟩ := Json.plain_isUnicode wdata
  obtain ⟨shownResult, presult, uresult⟩ := Json.plain?_isUnicode wresult
  have view : ofRecord e.handedOut = .ok (viewed e.handedOut data result elapsed) := by
    have checked : Schema.nullable Schema.object e.handedOut.actionResult = .ok result :=
      RuleView.objectColumn_of hresult
    rw [ofRecord, checked, helapsed, hdata]
    rfl
  have created := shownTime_isUnicode e.handedOut.createdAt
  refine ⟨_, _, view, by rw [toFields, viewed, pdata, presult]; rfl, rfl, ?_⟩
  simp only [Json.isUnicode_obj, List.all_cons, List.all_nil, Bool.and_true, Bool.and_eq_true,
    Json.isUnicode_int, id, ruleId, triggerType, success, outcome, errorMessage, triggeredBy,
    createdBy, jobId, udata, uresult, created]
  decide

end ExecutionView

/-- A record that a listing of a rule's records matches. -/
def Execution.matches (id : String) (success : Option Bool) (e : Execution) : Bool :=
  e.ruleId == id && success.all (e.success == ·)

namespace Api

open Engine (Setup World)

/-- One record as it is shown. -/
def showRecord (e : Execution) : Except Fault Json :=
  match ExecutionView.ofRecord e with
  | .ok view => view.toFields.map .obj
  | .error problems => .error (.invalid problems)

theorem showRecords_eq (records : List Execution) : showRecords records = records.mapM showRecord :=
  rfl

/-- An item of a listing that shows a record. -/
structure Shows (e : Execution) (item : Json) : Prop where
  shown : showRecord e.handedOut = .ok item
  id : item.get? "id" = some (.str e.id)
  whole : item.isUnicode = true

theorem shows_of_presentable {e : Execution} (h : e.Presentable) : ∃ item, Shows e item := by
  obtain ⟨view, fields, hview, hfields, id, whole⟩ := ExecutionView.ofRecord_presentable h
  have shown : showRecord e.handedOut = .ok (.obj fields) := by
    rw [showRecord, hview]
    dsimp only
    rw [hfields]
    rfl
  exact ⟨.obj fields, shown, id, whole⟩

theorem exists_shows {rows : List Execution} (h : ∀ e ∈ rows, e.Presentable) :
    ∃ items, List.Forall₂ Shows rows items := by
  induction rows with
  | nil => exact ⟨[], .nil⟩
  | cons e rest ih =>
    obtain ⟨first, others⟩ := List.forall_mem_cons.mp h
    obtain ⟨item, shows⟩ := shows_of_presentable first
    obtain ⟨items, rows⟩ := ih others
    exact ⟨item :: items, .cons shows rows⟩

/-- Records that can be shown are shown one by one. -/
theorem showRecords_of_shows {rows : List Execution} {items : List Json}
    (h : List.Forall₂ Shows rows items) : showRecords (rows.map (·.handedOut)) = .ok items := by
  rw [showRecords_eq]
  induction h with
  | nil => rfl
  | cons first _ ih =>
    rw [List.map_cons, List.mapM_cons, first.shown, ih]
    rfl

theorem isUnicode_of_shows {rows : List Execution} {items : List Json}
    (h : List.Forall₂ Shows rows items) : ∀ item ∈ items, item.isUnicode = true := by
  induction h with
  | nil => simp
  | cons first _ ih => exact List.forall_mem_cons.mpr ⟨first.whole, ih⟩

/-! ## One page -/

/-- A listing that can be answered: the engine lists records, the connection works, the rule is
stored, sizes and numbers of records fit 64 bits, records have ids of their own and moments that
exist, and those of the rule can be shown. -/
structure Listed (s : Service) (id : String) (size cap : Int) (db : Database) : Prop where
  engine : s.isForeign = false
  connected : s.outage = none
  capped : Page.cap s.environment = .ok cap
  positive : 1 ≤ size
  fits : Word.fits (min size cap) = true
  rule : (db.rule? id).isSome
  whole : Text.isWhole id.toList = true
  count : Word.fits db.executions.length = true
  keys : (db.executions.map fun e => Text.points e.id.toList).Nodup
  times : ∀ e ∈ db.executions, e.createdAt.Valid
  shown : ∀ e ∈ db.executions, e.ruleId = id → e.Presentable

/-- A request for a page of a listing, which finds a database. -/
structure Asks (success : Option Bool) (size : Int) (db : Database) (number : Int) (r : Request)
    (t : Target) (w : World) : Prop where
  get : r.verb = "GET"
  query : readListRequest t = .ok ⟨success, number, size⟩
  found : w.store.db = db
  reachable : w.store.refusal? = none

/-- The answer that shows a page of some items. -/
def pageAnswer (items : List Json) (p : Page) : Answer :=
  .value 200 (p.headers items.length)
    (.obj [("items", .arr (p.slice items)), ("total", .int items.length),
      ("page", .int p.number), ("page_size", .int p.size)])

/-- The rows of a listing, in order. -/
def rowsOf (db : Database) (id : String) (success : Option Bool) : List Execution :=
  (db.executions.filter (·.matches id success)).mergeSort Store.recordedAfter

theorem rowsOf_perm (db : Database) (id : String) (success : Option Bool) :
    (rowsOf db id success).Perm (db.executions.filter (·.matches id success)) :=
  List.mergeSort_perm ..

theorem matching_eq (db : Database) (id : String) (success : Option Bool) (offset limit : Json) :
    Store.matching db (.str id)
      { ruleId := .str id, success := Json.ofOption .bool success, offset := offset,
        limit := limit } = rowsOf db id success := by
  unfold Store.matching rowsOf
  congr 2
  funext e
  cases success with
  | none => simp [Execution.matches, Json.same, Json.ofOption, Json.isNull]
  | some b => simp [Execution.matches, Json.same, Json.ofOption, Json.isNull, Json.truthy]

/-- The records of a window and the number of all that match. -/
theorem listExecutions_ok {st : Store} (reachable : st.refusal? = none) {id : String}
    (whole : Text.isWhole id.toList = true) (success : Option Bool) {offset limit : Int}
    (fits : Word.fits offset = true) (fits' : Word.fits limit = true) :
    Store.listExecutions
        { ruleId := .str id, success := Json.ofOption .bool success, offset := .int offset,
          limit := .int limit } st =
      (.ok ((Store.window offset limit (rowsOf st.db id success)).map (·.handedOut),
        (rowsOf st.db id success).length), st) := by
  refine Store.query_ok reachable ?_
  have admits : ColumnKind.flag.admits (Json.ofOption .bool success) = true := by
    cases success with
    | none => rfl
    | some b => cases b <;> rfl
  simp only [text_stored whole, admits, Store.countOf?, Quantity.ofJson?, Quantity.whole, bind,
    Except.bind, Functor.map, Except.map, Option.getD_some, fits, fits', Bool.not_true,
    Bool.or_self, Bool.false_eq_true, if_false, matching_eq]
  rfl

theorem fits_of_le {m n : Nat} (h : m ≤ n) (fits : Word.fits n = true) : Word.fits m = true := by
  have least : Word.smallest ≤ 0 := by decide
  rw [Word.fits, Bool.and_eq_true, decide_eq_true_eq, decide_eq_true_eq] at fits ⊢
  omega

section Listing
variable {s : Service} {id : String} {success : Option Bool} {size cap number : Int} {db : Database}
  {r : Request} {t : Target} {w : World}

theorem Listed.page (h : Listed s id size cap db) (first : 1 ≤ number) :
    Page.within cap number size = ⟨number, min size cap⟩ := by
  have positive := h.positive
  have capped := Page.cap_positive h.capped
  unfold Page.within
  congr 1 <;> omega

/-- The size of a page as a natural number. -/
theorem Listed.exists_limit (h : Listed s id size cap db) :
    ∃ limit : Nat, 0 < limit ∧ (limit : Int) = min size cap := by
  have positive := h.positive
  have capped := Page.cap_positive h.capped
  exact ⟨(min size cap).toNat, by omega, by omega⟩

theorem Listed.newer (h : Listed s id size cap db) (success : Option Bool) :
    (rowsOf db id success).Pairwise Execution.Newer := by
  refine Store.sorted_newer (fun e he => h.times e (List.mem_filter.mp he).1) ?_
  exact h.keys.sublist (List.filter_sublist.map _)

theorem Listed.presentable (h : Listed s id size cap db) (success : Option Bool) {e : Execution}
    (he : e ∈ rowsOf db id success) : e.Presentable := by
  obtain ⟨there, matched⟩ := List.mem_filter.mp ((rowsOf_perm db id success).mem_iff.mp he)
  rw [Execution.matches, Bool.and_eq_true] at matched
  exact h.shown e there (eq_of_beq matched.1)

theorem window_forall₂ {R : α → β → Prop} {l₁ : List α} {l₂ : List β} (h : List.Forall₂ R l₁ l₂)
    (offset limit : Int) :
    List.Forall₂ R (Store.window offset limit l₁) (Store.window offset limit l₂) := by
  unfold Store.window
  dsimp only
  split
  · exact List.forall₂_drop _ h
  · exact List.forall₂_take _ (List.forall₂_drop _ h)

/-- A listing of records that can be shown gives the page that was asked for. -/
theorem listRecords_page (h : Listed s id size cap db) (found : w.store.db = db)
    (reachable : w.store.refusal? = none) (first : 1 ≤ number)
    (within : Word.fits ((number - 1) * min size cap) = true) {items : List Json}
    (shows : List.Forall₂ Shows (rowsOf db id success) items) :
    listRecords s id ⟨success, number, size⟩ w =
      (.ok (pageAnswer items ⟨number, min size cap⟩), w) := by
  subst found
  obtain ⟨rule, hrule⟩ := Option.isSome_iff_exists.mp h.rule
  have stored := storedRule_apply h.connected reachable id
  rw [hrule] at stored
  have listed := Engine.onStore_apply (listExecutions_ok reachable h.whole success within h.fits)
  have shown := showRecords_of_shows
    (window_forall₂ shows ((number - 1) * min size cap) (min size cap))
  have engine : s.useEngine w = (.ok (), w) := by
    rw [Service.useEngine, h.engine]
    rfl
  rw [listRecords, Run.bind_of_ok stored]
  dsimp only
  rw [h.capped]
  show (Run.ofExcept (.ok cap) >>= _) w = _
  rw [Run.bind_of_ok (Run.ofExcept_apply _ w), h.page first, Run.bind_of_ok engine, Page.offset,
    Run.bind_of_ok listed]
  show (Run.ofExcept (showRecords _) >>= _) w = _
  rw [shown, Run.bind_of_ok (Run.ofExcept_apply _ w), shows.length_eq]
  rfl

theorem pageAnswer_written {items : List Json} (whole : ∀ item ∈ items, item.isUnicode = true)
    (p : Page) : (pageAnswer items p).written = pageAnswer items p := by
  have page : (Json.arr (p.slice items)).isUnicode = true := by
    rw [Json.isUnicode_arr, List.all_eq_true]
    exact fun item hitem => whole item (Page.mem_of_mem_slice hitem)
  have body : (Json.obj [("items", .arr (p.slice items)), ("total", .int items.length),
      ("page", .int p.number), ("page_size", .int p.size)]).isUnicode = true := by
    simp only [Json.isUnicode_obj, List.all_cons, List.all_nil, page, Json.isUnicode_int]
    decide
  rw [pageAnswer, Answer.written, if_pos body]

/-- A request for a page is answered with it. -/
theorem page_answered (h : Listed s id size cap db) (asks : Asks success size db number r t w)
    (first : 1 ≤ number) (within : Word.fits ((number - 1) * min size cap) = true)
    {items : List Json} (shows : List.Forall₂ Shows (rowsOf db id success) items) :
    (respondOn s r t (.executions id) w).1 = .ok (pageAnswer items ⟨number, min size cap⟩) := by
  obtain ⟨w₁, needed, same⟩ := needEngine_store s w
  have found : w₁.store.db = db := by rw [same, asks.found]
  have reachable : w₁.store.refusal? = none := by rw [same, asks.reachable]
  have listed : listRecords s id ⟨success, number, size⟩ w₁ =
      (.ok (pageAnswer items ⟨number, min size cap⟩), w₁) :=
    listRecords_page h found reachable first within shows
  have answered : respondAt s r t (.executions id) w =
      (.ok (pageAnswer items ⟨number, min size cap⟩), w₁) := by
    rw [respondAt, Run.bind_of_ok needed, asks.query]
    exact listed
  have method : r.verb = (Route.executions id).method := asks.get
  rw [respondOn_apply method, answered, sent, pageAnswer_written (isUnicode_of_shows shows)]

/-- The pages of a listing that nothing is written to in between. There is one order of the records
that match, the newest first; each page up to the last one and beyond, as far as its offset fits 64
bits, is answered with its part of them and with the same total; the pages up to the last one
together are all records, each once; a page holds no more than the size that was asked for and the
cap allow, holds as many unless it is the last one, and none after that. -/
theorem pages_partition (h : Listed s id size cap db) (success : Option Bool) :
    ∃ (rows : List Execution) (items : List Json) (limit : Nat), (limit : Int) = min size cap ∧
      rows.Perm (db.executions.filter (·.matches id success)) ∧ rows.Pairwise Execution.Newer ∧
      List.Forall₂ Shows rows items ∧
      (∀ (k : Nat) r t w, Asks success size db (k + 1) r t w →
        k < pageCount items.length limit ∨ Word.fits (k * limit) = true →
          (respondOn s r t (.executions id) w).1 = .ok (pageAnswer items ⟨k + 1, limit⟩)) ∧
      ((List.range (pageCount items.length limit)).flatMap fun (k : Nat) =>
        Page.slice ⟨k + 1, limit⟩ items) = items ∧
      ∀ k : Nat, (Page.slice ⟨k + 1, limit⟩ items).length ≤ limit ∧
        (k + 1 < pageCount items.length limit →
          (Page.slice ⟨k + 1, limit⟩ items).length = limit) ∧
        (pageCount items.length limit ≤ k → Page.slice ⟨k + 1, limit⟩ items = []) := by
  have perm := rowsOf_perm db id success
  obtain ⟨items, shows⟩ := exists_shows fun e he => h.presentable success he
  obtain ⟨limit, positive, limited⟩ := h.exists_limit
  have few : items.length ≤ db.executions.length := by
    rw [← shows.length_eq, perm.length_eq]
    exact List.length_filter_le ..
  refine ⟨rowsOf db id success, items, limit, limited, perm, h.newer success, shows, ?_,
    Page.flatMap_all positive items, fun k => ⟨Page.slice_length_le .., Page.slice_full,
      Page.slice_beyond positive⟩⟩
  intro k r t w asks within
  have fits : Word.fits (k * limit) = true := by
    rcases within with before | fits
    · have start := lt_of_lt_pageCount before
      have offset : (k : Int) * limit = (k * limit : Nat) := by simp
      rw [offset]
      exact fits_of_le (by omega) h.count
    · exact fits
  have first : (1 : Int) ≤ k + 1 := by omega
  have answered := page_answered h asks first (by rwa [← limited, Int.add_sub_cancel]) shows
  rwa [← limited] at answered

end Listing

/-! ## Records of one rule -/

/-- A record of a run of a rule. -/
def recordOf (ruleId id : String) (data : Json) (at' : Moment) : Execution where
  id := id
  ruleId := ruleId
  triggerType := "TASK_CREATED"
  triggerData := data
  actionResult := .null
  success := true
  outcome := "SUCCESS"
  elapsedMs := .int 5
  errorMessage := none
  triggeredById := none
  createdBy := none
  jobId := none
  createdAt := at'

/-- A world with one rule and some records. -/
def recorded (records : List Execution) : World :=
  let w := ruledBy .null
  { w with store := { w.store with db := { w.store.db with executions := records } } }

/-- Three records of the rule, two of them of one moment. -/
def threeRecords : List Execution :=
  [recordOf "r-1" "e-1" (.obj []) Queue.launchDay, recordOf "r-1" "e-2" (.obj []) Queue.launchDay,
    recordOf "r-1" "e-3" (.obj [("taskId", .str "t-1")])
      { Queue.launchDay with hour := 9 }]

theorem threeRecords_listed :
    Listed recordingService "r-1" 2 200 (recorded threeRecords).store.db where
  engine := rfl
  connected := rfl
  capped := rfl
  positive := by decide
  fits := by decide
  rule := by decide +kernel
  whole := by decide +kernel
  count := by decide +kernel
  keys := by decide +kernel
  times e he := by
    have hours : e.createdAt = Queue.launchDay ∨
        e.createdAt = { Queue.launchDay with hour := 9 } := by
      simp only [recorded, threeRecords, List.mem_cons, List.not_mem_nil, or_false] at he
      rcases he with rfl | rfl | rfl
      exacts [.inl rfl, .inl rfl, .inr rfl]
    rcases hours with at' | at' <;> rw [at'] <;> constructor <;> decide +kernel
  shown e he _ := by
    simp only [recorded, threeRecords, List.mem_cons, List.not_mem_nil, or_false] at he
    rcases he with rfl | rfl | rfl
    · exact ⟨⟨[], rfl⟩, ⟨none, rfl⟩, ⟨5, rfl⟩, by decide +kernel⟩
    · exact ⟨⟨[], rfl⟩, ⟨none, rfl⟩, ⟨5, rfl⟩, by decide +kernel⟩
    · exact ⟨⟨[("taskId", .str "t-1")], rfl⟩, ⟨none, rfl⟩, ⟨5, rfl⟩, by decide +kernel⟩

def pageRequest : Request where
  method := "GET"
  target := "/api/v1/automation/rules/r-1/executions?page=2&page_size=2"

/-- The target of the request. -/
def pageTarget : Target := ⟨"/api/v1/automation/rules/r-1/executions".toList,
  "page=2&page_size=2".toList⟩

theorem second_page_asked :
    Asks none 2 (recorded threeRecords).store.db 2 pageRequest pageTarget
      (recorded threeRecords) where
  get := by decide +kernel
  query := by
    have read : (readListRequest pageTarget).toOption.map (fun q => (q.success, q.number, q.size)) =
        some (none, 2, 2) := by decide +kernel
    generalize readListRequest pageTarget = asked at read ⊢
    cases asked with
    | error => cases read
    | ok q =>
      obtain ⟨success, number, size⟩ := q
      cases read
      rfl
  found := rfl
  reachable := by rfl

theorem three_records_fill_two_pages :
    Listed recordingService "r-1" 2 200 (recorded threeRecords).store.db ∧
      ∃ rows items, rows.Perm threeRecords ∧ rows.Pairwise Execution.Newer ∧
        List.Forall₂ Shows rows items ∧
          (respondOn recordingService pageRequest pageTarget (.executions "r-1")
            (recorded threeRecords)).1 = .ok (pageAnswer items ⟨2, 2⟩) ∧
              Page.slice ⟨1, 2⟩ items ++ Page.slice ⟨2, 2⟩ items = items := by
  refine ⟨threeRecords_listed, ?_⟩
  obtain ⟨rows, items, limit, limited, perm, newer, shows, answered, all, -⟩ :=
    pages_partition threeRecords_listed none
  obtain rfl : limit = 2 := by omega
  have every : (recorded threeRecords).store.db.executions.filter (·.matches "r-1" none) =
      threeRecords := by
    exact List.filter_eq_self.mpr (by decide +kernel)
  rw [every] at perm
  have three : items.length = 3 := by
    rw [← shows.length_eq, perm.length_eq]
    rfl
  refine ⟨rows, items, perm, newer, shows, ?_, ?_⟩
  · exact answered 1 _ _ _ second_page_asked (.inl (by rw [three]; decide))
  · rw [three] at all
    simpa [pageCount, List.range_succ] using all

/-! ## Listings without pages -/

/-- The status that a request for the first page of a listing is answered with. -/
def firstPage (s : Service) (query id : String) (records : List Execution) : Option Nat :=
  statusIn (respondOn s pageRequest ⟨pageTarget.path, query.toList⟩ (.executions id)
    (recorded records)).1

/-- Trigger data with a lone half. -/
def halfNote : Json := .obj [("note", .str (String.ofList (Text.ofPoints [0xD800])))]

/-- A service whose pages may hold more records than 64 bits count. -/
def boundless : Service :=
  { recordingService with environment := ⟨[(Page.capVariable, "9223372036854775808")]⟩ }

theorem a_listing_can_fail :
    firstPage recordingService "" "r-9" [recordOf "r-9" "e-1" (.obj []) Queue.launchDay] =
        some 404 ∧
      firstPage recordingService "" "r-1" [recordOf "r-1" "e-1" halfNote Queue.launchDay] =
        some 500 ∧
      firstPage boundless "page_size=9223372036854775808" "r-1" [] = some 500 := by
  decide +kernel

end Api
end TaskRules
