import TaskRules.Proofs.StartUp

/-!
Which database migrating works on. Whether a database was built without migrations is asked of the
one that the URL of the options names; marking it and bringing it up are commands, and these work on
the one that the environment names, if it does. The two are one database when the environment names
none or gives the same URL. A URL gets into the options and out of them as it is when it has no
percent signs; one with encoded characters is refused.

Proved:
- `Options.set_encoded`, `Options.set_plain`: what becomes of a URL that is put into the options.
- `Touches.bind`: what a run does to the databases in reach, its log apart.
- `Hosts.connect_bind`, `Hosts.connect_frame`: work on a file in several goes, and what it leaves
  alone.
- `toHeadOn_self`: looking and working at one place is bringing the database there to the head.
- `toHead_reaches`: which database is looked at, and which are changed.
- `another_database_is_migrated`: one that was not asked for.
-/

namespace TaskRules.Migration

/-! ## URLs among the options -/

/-- Every percent sign of a text starts an encoded byte. -/
def IsEncoded (cs : List Char) : Prop :=
  ∀ before after, cs = before ++ '%' :: after →
    ∃ a b rest, after = a :: b :: rest ∧ (Text.hexValue? a).isSome ∧ (Text.hexValue? b).isSome

namespace IsEncoded

theorem tail {c : Char} {cs : List Char} (h : IsEncoded (c :: cs)) : IsEncoded cs :=
  fun before after split => h (c :: before) after (by rw [split]; rfl)

/-- The character after a percent sign is no second one and opens no reference. -/
theorem after_percent {cs : List Char} (h : IsEncoded ('%' :: cs)) :
    ∃ a rest, cs = a :: rest ∧ a ≠ '%' ∧ a ≠ '(' := by
  obtain ⟨a, b, rest, rfl, digit, -⟩ := h [] cs rfl
  refine ⟨a, b :: rest, rfl, ?_, ?_⟩ <;> rintro rfl <;> cases digit

end IsEncoded

namespace Options

theorem withoutDoubled_encoded {cs : List Char} (h : IsEncoded cs) : withoutDoubled cs = cs := by
  induction cs with
  | nil => rfl
  | cons c cs ih =>
    rw [withoutDoubled, ih h.tail]
    rintro rest rfl rfl
    obtain ⟨a, rest', same, other, -⟩ := h.after_percent
    exact other (List.cons.inj same).1.symm

theorem withoutReferences_encoded (fuel : Nat) {cs : List Char} (h : IsEncoded cs) :
    withoutReferences fuel cs = cs := by
  induction fuel generalizing cs with
  | zero => rfl
  | succ fuel ih =>
    cases cs with
    | nil => rfl
    | cons c cs =>
      rw [withoutReferences, ih h.tail]
      split
      · rename_i percent
        subst percent
        obtain ⟨a, rest, rfl, -, other⟩ := h.after_percent
        have none : reference? (a :: rest) = none := by
          unfold reference?
          split
          · rename_i opens
            exact absurd (List.cons.inj opens).1 other
          · rfl
        rw [none]
      · rfl

theorem check_of_encoded {value : String} (h : IsEncoded value.toList) :
    check value = if value.toList.contains '%' then
      .error (.ofForeign .value ("invalid interpolation syntax in " ++ Json.quotedText value ++
        " at position " ++ decimal (Text.size (value.toList.takeWhile (· != '%')))))
    else .ok () := by
  rw [check, withoutDoubled_encoded h, withoutReferences_encoded _ h]

/-- A value with encoded characters cannot be set. -/
theorem set_encoded (o : Options) (name : String) {value : String} (h : IsEncoded value.toList)
    (encoded : '%' ∈ value.toList) :
    ∃ message, o.set name (.str value) = .error (.ofForeign .value message) := by
  rw [set, check_of_encoded h, if_pos (List.contains_iff_mem.mpr encoded)]
  exact ⟨_, rfl⟩

/-- A value without percent signs is set and had again as it is. -/
theorem set_plain (o : Options) (name : String) {value : String} (plain : '%' ∉ value.toList) :
    ∃ o', o.set name (.str value) = .ok o' ∧ o'.get name = .ok value := by
  have encoded : IsEncoded value.toList := by
    intro before after split
    exact absurd (split ▸ List.mem_append_right before List.mem_cons_self) plain
  refine ⟨(name, value) :: List.filter (·.1 != name) o, ?_, get_plain ?_ plain⟩
  · rw [set, check_of_encoded encoded, if_neg (by rwa [List.contains_iff_mem])]
    rfl
  · simp [raw?]

end Options

/-! ## The databases in reach -/

/-- A run that does to the databases in reach what another one does, and beside that only adds to the
log. -/
def Touches (x : Run World α) (y : Run Hosts α) : Prop :=
  ∀ w, ∃ log, x w = ((y w.hosts).1, ⟨(y w.hosts).2, log⟩)

namespace Touches

theorem ofExcept (r : Except Fault α) : Touches (Run.ofExcept r) (Run.ofExcept r) :=
  fun w => ⟨w.log, rfl⟩

theorem note (r : Log.Record) : Touches (World.note r) (pure ()) := fun _ => ⟨_, rfl⟩

theorem quieten : Touches quieten (pure ()) := fun _ => ⟨_, rfl⟩

theorem onHosts (x : Run Hosts α) : Touches (World.onHosts x) x := fun w => ⟨w.log, rfl⟩

theorem bind {x : Run World α} {y : Run Hosts α} (h : Touches x y) {f : α → Run World β}
    {g : α → Run Hosts β} (hfg : ∀ a, Touches (f a) (g a)) : Touches (x >>= f) (y >>= g) := by
  intro w
  obtain ⟨log, ran⟩ := h w
  rcases result : y w.hosts with ⟨r, hosts⟩
  rw [result] at ran
  cases r with
  | error e => exact ⟨log, by rw [Run.bind_of_error ran, Run.bind_of_error result]⟩
  | ok a =>
    obtain ⟨log', ran'⟩ := hfg a ⟨hosts, log⟩
    exact ⟨log', by rw [Run.bind_of_ok ran, Run.bind_of_ok result, ran']⟩

/-- A result that is known. -/
theorem given {r : Except Fault α} {a : α} (h : r = .ok a) {f : α → Run World β} {y : Run Hosts β}
    (hf : Touches (f a) y) : Touches (Run.ofExcept r >>= f) y := by
  subst h
  exact hf

/-- What leaves the databases alone may come first. -/
theorem after {x : Run World Unit} (hx : Touches x (pure ())) {f : Unit → Run World α}
    {y : Run Hosts α} (hf : Touches (f ()) y) : Touches (x >>= f) y :=
  hx.bind (g := fun _ => y) fun _ => hf

/-- What leaves the databases alone may come last. -/
theorem before {x z : Run World Unit} {y : Run Hosts Unit} (h : Touches x y)
    (hz : Touches z (pure ())) : Touches (x >>= fun _ => z) y := by
  have ended : y = y >>= fun _ => pure () := by
    funext hosts
    rcases result : y hosts with ⟨e | ⟨⟩, hosts'⟩
    · rw [Run.bind_of_error result]
    · rw [Run.bind_of_ok result, Run.pure_apply]
  rw [ended]
  exact h.bind fun _ => hz

end Touches

/-- Where the database is that a URL names. -/
def locate (text : String) : Except Fault Location := do (← Url.read text).location

/-- Works on the database at a place, if there is one. -/
def visit (place : Except Fault Location) (x : Run State α) : Run Hosts α := do
  Hosts.connect (← Run.ofExcept place) x

theorem visit_ok (l : Location) (x : Run State α) : visit (.ok l) x = Hosts.connect l x := rfl

/-- Brings databases to the head: the one at the first place is looked at, the one at the second is
marked and brought up. -/
def toHeadOn (looked worked : Except Fault Location) : Run Hosts Unit := do
  if ← visit looked (do return (← Run.read).isUnmarked) then
    visit worked (State.stamp (.str createdRevision.id))
  visit worked (State.upgrade "head")

namespace Hosts

theorem state_setState_ne (h : Hosts) {path other : String} (apart : path ≠ other) (s : State) :
    (h.setState path s).state other = h.state other := by
  have kept : (h.files.filter (·.1 != path)).find? (·.1 == other) =
      h.files.find? (·.1 == other) := by
    rw [List.find?_filter]
    congr 1
    funext file
    by_cases same : file.1 = other
    · simp [same, apart.symm]
    · simp [same]
  simp only [state, setState, List.find?_cons, beq_eq_false_iff_ne.mpr apart, kept]

theorem setState_setState (h : Hosts) (path : String) (s s' : State) :
    (h.setState path s).setState path s' = h.setState path s' := by
  simp [setState]

/-- Whether a file can be connected to. -/
def opens (h : Hosts) (path : String) (mustExist : Bool) : Bool :=
  h.canOpen path && (!mustExist || h.isThere path)

/-- A file that has been worked on can be connected to again. -/
theorem opens_setState {h : Hosts} {path : String} {mustExist : Bool}
    (ready : h.opens path mustExist = true) (s : State) :
    (h.setState (plainPath path) s).opens path mustExist = true := by
  rw [opens, Bool.and_eq_true] at ready ⊢
  exact ⟨ready.1, by simp [isThere, setState]⟩

theorem connect_open {h : Hosts} {path : String} {mustExist : Bool}
    (ready : h.opens path mustExist = true) (x : Run State α) :
    connect (.file path mustExist) x h =
      ((x (h.content path)).1, h.setState (plainPath path) (x (h.content path)).2) :=
  if_pos ready

/-- What is done to the database in a file. -/
theorem connect_content {h : Hosts} {path : String} {mustExist : Bool}
    (ready : h.opens path mustExist = true) {x : Run State α} {r : Except Fault α} {s : State}
    (ran : x (h.content path) = (r, s)) :
    ∃ hosts, connect (.file path mustExist) x h = (r, hosts) ∧ hosts.content path = s := by
  have done := connect_open ready x
  rw [ran] at done
  exact ⟨_, done, content_setState h path s⟩

theorem connect_closed {h : Hosts} {path : String} {mustExist : Bool}
    (closed : h.opens path mustExist ≠ true) (x : Run State α) :
    connect (.file path mustExist) x h = (.error .database, h) :=
  if_neg closed

/-- Working on a file changes the database in no other. -/
theorem connect_frame (l : Location) (x : Run State α) (h : Hosts) {other : String}
    (apart : ∀ path mustExist, l = .file path mustExist → plainPath path ≠ other) :
    (connect l x h).2.state other = h.state other := by
  cases l with
  | memory => rfl
  | file path mustExist =>
    by_cases ready : h.opens path mustExist = true
    · rw [connect_open ready]
      exact state_setState_ne h (apart path mustExist rfl) _
    · rw [connect_closed ready]

/-- What is done to a file in one go can be done in two. -/
theorem connect_bind (path : String) (mustExist : Bool) (x : Run State α) (f : α → Run State β) :
    connect (.file path mustExist) (x >>= f) =
      connect (.file path mustExist) x >>= fun a => connect (.file path mustExist) (f a) := by
  funext h
  by_cases ready : h.opens path mustExist = true
  · rcases ran : x (h.content path) with ⟨r, s⟩
    have first := connect_open ready x
    rw [ran] at first
    cases r with
    | error e => rw [connect_open ready, Run.bind_of_error ran, Run.bind_of_error first]
    | ok a =>
      rw [connect_open ready, Run.bind_of_ok ran, Run.bind_of_ok first,
        connect_open (opens_setState ready s), content_setState, setState_setState]
  · rw [connect_closed ready, Run.bind_of_error (connect_closed ready x)]

end Hosts

theorem isUnmarked_empty : State.isUnmarked {} = false := by decide +kernel

/-- A database in memory is new each time it is looked at, so it is never found unmarked. -/
theorem toHeadOn_memory (worked : Except Fault Location) :
    toHeadOn (.ok .memory) worked = visit worked (State.upgrade "head") := by
  funext h
  have asked : visit (.ok .memory) (do return (← Run.read).isUnmarked) h =
      (.ok (State.isUnmarked {}), h) := rfl
  rw [toHeadOn, Run.bind_of_ok asked, isUnmarked_empty]
  rfl

/-- Looking and working at one place is bringing the database there to the head. -/
theorem toHeadOn_self (l : Location) : toHeadOn (.ok l) (.ok l) = Hosts.connect l State.toHead := by
  cases l with
  | memory =>
    rw [toHeadOn_memory, visit_ok]
    funext h
    show ((State.upgrade "head" {}).1, h) = ((State.toHead {}).1, h)
    rw [toHead_marked isUnmarked_empty]
  | file path mustExist =>
    let ask : Run State Bool := do return (← Run.read).isUnmarked
    let mark : Run State Unit := State.stamp (.str createdRevision.id)
    have asked : State.toHead = ask >>= fun unmarked =>
        if unmarked then mark >>= fun _ => State.upgrade "head" else State.upgrade "head" := rfl
    rw [asked, Hosts.connect_bind path mustExist ask]
    refine congrArg (Hosts.connect (.file path mustExist) ask >>= ·) (funext fun unmarked => ?_)
    cases unmarked with
    | false => rfl
    | true => exact (Hosts.connect_bind path mustExist mark _).symm

/-! ## Migrating -/

section Migrating
variable {c : Config} {o : Options}

/-- The URL that commands work with when migrating is asked for one: that of the environment comes
first. -/
def Config.workingUrl (c : Config) (text : String) : String :=
  match c.environmentUrl with
  | some url => if url = "" then text else url
  | none => text

/-- A command works on the database that its URL names. -/
theorem commandDatabase_eq {text : String} (get : o.get Config.urlOption = .ok text)
    (plain : '%' ∉ (c.workingUrl text).toList) :
    c.commandDatabase o = Url.read (c.workingUrl text) := by
  have named {o' : Options} {url : String} (get : o'.get Config.urlOption = .ok url) :
      Config.database o' = Url.read url := by
    rw [Config.database, get]
    rfl
  unfold Config.workingUrl at plain ⊢
  rw [Config.commandDatabase, Config.commandOptions]
  cases environment : c.environmentUrl with
  | none => exact named get
  | some url =>
    rw [environment] at plain
    dsimp only at plain ⊢
    by_cases empty : url = ""
    · rw [if_pos empty, if_pos empty]
      exact named get
    · rw [if_neg empty] at plain
      rw [if_neg empty, if_neg empty]
      obtain ⟨o', set, get'⟩ := Options.set_plain o Config.urlOption plain
      rw [set]
      exact named get'

theorem command_touches {text : String} (get : o.get Config.urlOption = .ok text)
    (plain : '%' ∉ (c.workingUrl text).toList) (x : Run State Unit) :
    Touches (command c o x) (visit (locate (c.workingUrl text)) x) := by
  unfold command visit locate
  rw [commandDatabase_eq get plain]
  refine Touches.quieten.after ?_
  cases Url.read (c.workingUrl text) with
  | error e => exact Touches.ofExcept _
  | ok url => exact (Touches.ofExcept _).bind fun l => .onHosts _

theorem builtUnmarked_touches (text : String) :
    Touches (builtUnmarked text) (visit (locate text) (do return (← Run.read).isUnmarked)) :=
  (Touches.ofExcept _).bind fun _ => .onHosts _

/-- A URL without percent signs leads to the database that it names, and that is the one looked at.
The one worked on is that of the environment if it names one. -/
theorem toHead_touches {given : Json} {text : String} (set : c.options given = .ok o)
    (get : o.get Config.urlOption = .ok text) (plain : '%' ∉ (c.workingUrl text).toList) :
    Touches (toHead c given) (toHeadOn (locate text) (locate (c.workingUrl text))) := by
  have commanded (x : Run State Unit) := command_touches get plain x
  have upgraded : Touches (upgrade c o "head" >>= fun _ =>
      World.note (Log.info logger "Automation schema is at head"))
      (visit (locate (c.workingUrl text)) (State.upgrade "head")) :=
    (commanded _).before (.note _)
  refine .given set (.given get ((builtUnmarked_touches text).bind fun unmarked => ?_))
  cases unmarked with
  | false => exact upgraded
  | true => exact (Touches.note _).after ((commanded _).bind fun _ => upgraded)

/-- Which databases migrating reaches, when the configuration file is there and a URL is asked for.
A URL with encoded characters is refused, and nothing is done. Without percent signs in the URLs the
database that the URL names is looked at, and the one that the environment names, if it does, is
marked and brought up. When these are the same URL, the database that it names is brought to the head
and no other changes. -/
theorem toHead_reaches {given : Json} {text : String} (file : c.hasFile = true)
    (chosen : c.chosen given = .str text) (w : World) :
    (IsEncoded text.toList → '%' ∈ text.toList →
      ∃ message, toHead c given w = (.error (.ofForeign .value message), w)) ∧
    ('%' ∉ text.toList → '%' ∉ (c.workingUrl text).toList →
      ∃ hosts log, toHead c given w =
          ((toHeadOn (locate text) (locate (c.workingUrl text)) w.hosts).1, ⟨hosts, log⟩) ∧
        hosts = (toHeadOn (locate text) (locate (c.workingUrl text)) w.hosts).2) ∧
    ('%' ∉ text.toList → c.workingUrl text = text → ∀ l, locate text = .ok l →
      ∃ hosts log,
        toHead c given w = ((Hosts.connect l State.toHead w.hosts).1, ⟨hosts, log⟩) ∧
        hosts = (Hosts.connect l State.toHead w.hosts).2 ∧
        ∀ other, (∀ path mustExist, l = .file path mustExist → Hosts.plainPath path ≠ other) →
          hosts.state other = w.hosts.state other) := by
  have options : c.options given = c.fileOptions.set Config.urlOption (.str text) := by
    rw [Config.options, if_pos file, chosen]
  have reached (plain : '%' ∉ text.toList) (plain' : '%' ∉ (c.workingUrl text).toList) :
      Touches (toHead c given) (toHeadOn (locate text) (locate (c.workingUrl text))) := by
    obtain ⟨o, set, get⟩ := Options.set_plain c.fileOptions Config.urlOption plain
    exact toHead_touches (options.trans set) get plain'
  refine ⟨fun encoded there => ?_, fun plain plain' => ?_, fun plain same l located => ?_⟩
  · obtain ⟨message, refused⟩ := Options.set_encoded c.fileOptions Config.urlOption encoded there
    refine ⟨message, ?_⟩
    unfold toHead
    rw [options, refused]
    rfl
  · obtain ⟨log, ran⟩ := reached plain plain' w
    exact ⟨_, log, ran, rfl⟩
  · obtain ⟨log, ran⟩ := reached plain (by rwa [same]) w
    rw [same, located, toHeadOn_self] at ran
    exact ⟨_, log, ran, rfl, fun other apart => Hosts.connect_frame l _ _ apart⟩

end Migrating

/-- A database that both the settings and the environment name. -/
theorem the_named_database_is_migrated :
    let url := "sqlite+pysqlite:///./linxio_automation.db"
    let c : Config := { settingsUrl := .str url, environmentUrl := some url }
    c.hasFile = true ∧ c.chosen .null = .str url ∧ ∃ hosts log,
      toHead c .null {} = (.ok (), ⟨hosts, log⟩) ∧
        (hosts.content "./linxio_automation.db").version = some [headId] ∧
        hosts.state "other.db" = {} := by
  intro url c
  have asked : c.chosen .null = .str url := rfl
  have plain : '%' ∉ url.toList := by decide +kernel
  have same : c.workingUrl url = url := by decide +kernel
  have located : locate url = .ok (.file "./linxio_automation.db" false) :=
    ok_of_toOption (by decide +kernel)
  have ready : Hosts.opens {} "./linxio_automation.db" false = true := by decide +kernel
  obtain ⟨s, upgraded, atHead⟩ := upgrade_empty
  obtain ⟨hosts, done, content⟩ :=
    Hosts.connect_content ready ((toHead_marked isUnmarked_empty).trans upgraded)
  obtain ⟨-, -, one⟩ := toHead_reaches rfl asked {}
  obtain ⟨hosts', log, ran, same', others⟩ := one plain same _ located
  rw [done] at ran same'
  subst same'
  refine ⟨rfl, asked, hosts', log, ran, ?_, others _ ?_⟩
  · rw [content, atHead]
    rfl
  · rintro path mustExist found
    cases found
    decide +kernel

/-- A database in memory is asked for and looked at, but the environment's is brought to the head. -/
theorem another_database_is_migrated :
    let c : Config :=
      { settingsUrl := .str "sqlite+pysqlite:///:memory:"
        environmentUrl := some "sqlite+pysqlite:///./other.db" }
    locate "sqlite+pysqlite:///:memory:" = .ok .memory ∧
      (({} : World).hosts.content "./other.db").version = none ∧
      ((toHead c .null {}).2.hosts.content "./other.db").version = some [headId] := by
  intro c
  have asked : locate "sqlite+pysqlite:///:memory:" = .ok .memory :=
    ok_of_toOption (by decide +kernel)
  have working : c.workingUrl "sqlite+pysqlite:///:memory:" = "sqlite+pysqlite:///./other.db" := by
    decide +kernel
  have worked : locate "sqlite+pysqlite:///./other.db" = .ok (.file "./other.db" false) :=
    ok_of_toOption (by decide +kernel)
  have plain : '%' ∉ "sqlite+pysqlite:///:memory:".toList := by decide +kernel
  have ready : Hosts.opens {} "./other.db" false = true := by decide +kernel
  obtain ⟨s, upgraded, atHead⟩ := upgrade_empty
  obtain ⟨hosts, done, content⟩ := Hosts.connect_content ready upgraded
  obtain ⟨o, set, get⟩ := Options.set_plain c.fileOptions Config.urlOption plain
  have options : c.options .null = .ok o := set
  obtain ⟨log, ran⟩ := toHead_touches options get (by rw [working]; decide +kernel) {}
  rw [asked, working, worked, toHeadOn_memory, visit_ok, done] at ran
  refine ⟨asked, rfl, ?_⟩
  rw [ran]
  show (hosts.content "./other.db").version = _
  rw [content, atHead]
  rfl

end TaskRules.Migration
