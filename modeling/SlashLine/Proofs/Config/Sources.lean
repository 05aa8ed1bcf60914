import SlashLine.Config.Load
import SlashLine.Proofs.Config.Merging

/-!
# Where settings come from

Every setting has sources of its own: its variable in the environment, and its place in the
contents of the file. The file and the environment are merged as a whole, though, and a section of
the file may be missing or be no mapping. Still each setting is read from its own sources, as if
there were no others: `lookup?_mergedSection` says so for what is in sections, `lookup?_logLevel`
for the log level, which is not. The readings are then put together section by section, so the
problems of the first section that has any are all that is reported.

A section of the file that has a key that is no text cannot be read at all. It fails in its turn,
before its problems are found.

* `Readings`: every setting, as its own sources spell it.
* `Readings.problems`: what is wrong with the readings of a section.
* `settingsIn_cases`: the sections are read in their order, and the first one in trouble ends it.
* `load_follows_readings`: settings that are loaded are those that were read, and otherwise the
  problems of the first section with any are reported.
-/

namespace SlashLine.Config

/-! ## Readings -/

/-- The value of a key in a section of a file, if the section is a mapping. -/
def filed? (entries : Entries) (place name : String) : Option Value :=
  match Value.lookup? (.text place) entries with
  | some (.mapping inner) => Value.lookup? (.text name) inner
  | _ => none

/-- What a setting is read from: the text of its variable if that is set, else what the file has. -/
def source? (text : Option String) (filed : Option Value) : Option Value :=
  (text.map Value.text).or filed

/-- A value as it is converted, or the default if there is no value. -/
def settle {α : Type} (default : α) (convert : Value → Except Misfit α) :
    Option Value → Except Misfit α
  | none => .ok default
  | some v => convert v

/-- A conversion that fails for values that are not allowed. -/
def bounded {α : Type} (convert : Value → Except Misfit α) (refusal : α → Option String)
    (v : Value) : Except Misfit α :=
  (convert v).bind (allowed refusal)

/-- A truth value. A text is true if it is one of the words for true, and false otherwise. -/
def switch (v : Value) : Except Misfit Bool := Field.bool (textAsBool v)

/-- Every setting, as its own sources spell it. -/
structure Readings where
  historySize : Except Misfit Int
  maxTips : Except Misfit Int
  maxRetries : Except Misfit Int
  baseDelay : Except Misfit Binary64
  maxSessions : Except Misfit Int
  theme : Except Misfit String
  useColours : Except Misfit Bool
  logLevel : Except Misfit String

/-- The settings where nothing is set. -/
def usualSettings : AppSettings := {}

/-- The readings of the entries of a file and the environment. There is no variable for the
theme. -/
def readings (entries : Entries) (env : Environment) : Readings where
  historySize := settle usualSettings.router.historySize
    (bounded Field.int RouterSettings.refuseHistorySize)
    (source? env.historySize (filed? entries "router" "history_size"))
  maxTips := settle usualSettings.router.maxTips (bounded Field.int RouterSettings.refuseMaxTips)
    (source? env.maxTips (filed? entries "router" "max_tips"))
  maxRetries := settle usualSettings.recovery.maxRetries
    (bounded Field.int RecoverySettings.refuseMaxRetries)
    (source? env.maxRetries (filed? entries "recovery" "max_retries"))
  baseDelay := settle usualSettings.recovery.baseDelay
    (bounded Field.float RecoverySettings.refuseBaseDelay)
    (source? env.baseDelay (filed? entries "recovery" "base_delay"))
  maxSessions := settle usualSettings.recovery.maxSessions
    (bounded Field.int RecoverySettings.refuseMaxSessions)
    (source? env.maxSessions (filed? entries "recovery" "max_sessions"))
  theme := settle usualSettings.ui.theme Field.text (filed? entries "ui" "theme")
  useColours := settle usualSettings.ui.useColours switch
    (source? env.useColours (filed? entries "ui" "use_colors"))
  logLevel := settle usualSettings.logLevel AppSettings.logLevelOf
    (source? env.logLevel (Value.lookup? (.text "log_level") entries))

/-- The settings are those that were read. -/
structure Readings.Give (readings : Readings) (settings : AppSettings) : Prop where
  historySize : readings.historySize = .ok settings.router.historySize
  maxTips : readings.maxTips = .ok settings.router.maxTips
  maxRetries : readings.maxRetries = .ok settings.recovery.maxRetries
  baseDelay : readings.baseDelay = .ok settings.recovery.baseDelay
  maxSessions : readings.maxSessions = .ok settings.recovery.maxSessions
  theme : readings.theme = .ok settings.ui.theme
  useColours : readings.useColours = .ok settings.ui.useColours
  logLevel : readings.logLevel = .ok settings.logLevel

/-- The sections, and the log level, which is on its own. -/
inductive Group where
  | router
  | recovery
  | ui
  | logLevel
  deriving DecidableEq

/-- All groups, in the order in which they are read. -/
def Group.all : List Group := [router, recovery, ui, logLevel]

/-- What is wrong with the reading of a setting. -/
def problem {α : Type} (name : String) : Except Misfit α → List Problem
  | .ok _ => []
  | .error misfit => [⟨[name], misfit⟩]

/-- What is wrong with the readings of a group. -/
def Readings.problems (readings : Readings) : Group → List Problem
  | .router => problem "history_size" readings.historySize ++ problem "max_tips" readings.maxTips
  | .recovery => problem "max_retries" readings.maxRetries ++
      (problem "base_delay" readings.baseDelay ++ problem "max_sessions" readings.maxSessions)
  | .ui => problem "theme" readings.theme ++ problem "use_colors" readings.useColours
  | .logLevel => problem "log_level" readings.logLevel

/-! ## Keys -/

/-- A key that is a text, if perhaps one with halves of characters in it. -/
def isText : Scalar → Bool
  | .text _ => true
  | .unpaired _ => true
  | _ => false

/-- The section that a group is in. -/
def Group.place? : Group → Option String
  | .router => some "router"
  | .recovery => some "recovery"
  | .ui => some "ui"
  | .logLevel => none

/-- The keys of a section of a file are texts, if it is a mapping. -/
def textKeysIn (entries : Entries) (place : String) : Bool :=
  match Value.lookup? (.text place) entries with
  | some (.mapping inner) => inner.all fun entry => isText entry.1
  | _ => true

/-- The keys of the section of a group are texts. The log level is in no section. -/
def textKeys (entries : Entries) (group : Group) : Bool := group.place?.all (textKeysIn entries)

/-- A group cannot be read: a key of its section is no text, or there are problems. -/
def inTrouble (entries : Entries) (env : Environment) (group : Group) : Bool :=
  !(textKeys entries group && ((readings entries env).problems group).isEmpty)

/-- The first group that cannot be read. -/
def firstTrouble? (entries : Entries) (env : Environment) : Option Group :=
  Group.all.find? (inTrouble entries env)

/-! ## Reading one setting after the other -/

/-- A reading gives what is expected and there are no problems, or it reports the problems there
are. -/
def Reading.Answers {α : Type} (reading : Reading α) (problems : List Problem)
    (expected : α → Prop) : Prop :=
  (∃ x, reading = .ok x ∧ expected x ∧ problems = []) ∨ (reading = .error problems ∧ problems ≠ [])

/-- Two readings have trouble with what either has trouble with, in this order. -/
theorem Reading.Answers.both {α β : Type} {a : Reading α} {b : Reading β} {ps qs : List Problem}
    {p : α → Prop} {q : β → Prop} (ha : a.Answers ps p) (hb : b.Answers qs q) :
    (Reading.both a b).Answers (ps ++ qs) fun x => p x.1 ∧ q x.2 := by
  rcases ha with ⟨x, rfl, hx, rfl⟩ | ⟨rfl, hps⟩ <;> rcases hb with ⟨y, rfl, hy, rfl⟩ | ⟨rfl, hqs⟩
  · exact Or.inl ⟨(x, y), rfl, ⟨hx, hy⟩, rfl⟩
  · exact Or.inr ⟨rfl, hqs⟩
  · exact Or.inr ⟨by rw [List.append_nil]; rfl, by rwa [List.append_nil]⟩
  · exact Or.inr ⟨rfl, fun hnil => hps (List.append_eq_nil_iff.mp hnil).1⟩

theorem Reading.Answers.map {α β : Type} {a : Reading α} {ps : List Problem} {p : α → Prop}
    {q : β → Prop} {f : α → β} (ha : a.Answers ps p) (h : ∀ x, p x → q (f x)) :
    Reading.Answers (Except.map f a) ps q := by
  rcases ha with ⟨x, rfl, hx, rfl⟩ | ⟨rfl, hps⟩
  · exact Or.inl ⟨f x, rfl, h x hx, rfl⟩
  · exact Or.inr ⟨rfl, hps⟩

theorem answers_setting {α : Type} (name : String) (default : α) (convert : Value → Except Misfit α)
    {entries : Entries} {source : Option Value}
    (hsource : Value.lookup? (.text name) entries = source) :
    (setting name default convert entries).Answers (problem name (settle default convert source))
      fun x => settle default convert source = .ok x := by
  subst hsource
  unfold setting
  cases Value.lookup? (.text name) entries with
  | none => exact Or.inl ⟨default, rfl, rfl, rfl⟩
  | some v =>
    rw [settle]
    show Reading.Answers ((convert v).mapError _) _ _
    cases convert v with
    | ok x => exact Or.inl ⟨x, rfl, rfl, rfl⟩
    | error misfit => exact Or.inr ⟨rfl, List.cons_ne_nil _ _⟩

/-! ## The environment on top of the file -/

namespace Environment

/-- What the environment has for each section. -/
def router (env : Environment) : Entries :=
  present [("history_size", env.historySize), ("max_tips", env.maxTips)]

def recovery (env : Environment) : Entries :=
  present [("max_retries", env.maxRetries), ("base_delay", env.baseDelay),
    ("max_sessions", env.maxSessions)]

def ui (env : Environment) : Entries := present [("use_colors", env.useColours)]

theorem entries_eq (env : Environment) :
    env.entries = [(.text "router", .mapping env.router), (.text "recovery", .mapping env.recovery),
      (.text "ui", .mapping env.ui)] ++ present [("log_level", env.logLevel)] := rfl

@[simp] theorem lookup?_present_nil (name : String) :
    Value.lookup? (.text name) (present []) = none := rfl

@[simp] theorem lookup?_present_cons (name name' : String) (text : Option String)
    (rest : List (String × Option String)) :
    Value.lookup? (.text name) (present ((name', text) :: rest)) =
      if name' = name then (text.map Value.text).or (Value.lookup? (.text name) (present rest))
      else Value.lookup? (.text name) (present rest) := by
  cases text with
  | none => simp [present]
  | some t => simp [present, Value.lookup?, Scalar.asKey]

theorem name_of_mem_present {settings : List (String × Option String)} {entry : Scalar × Value}
    (h : entry ∈ present settings) : ∃ name ∈ settings.map Prod.fst, entry.1 = .text name := by
  obtain ⟨setting, hsetting, hentry⟩ := List.mem_filterMap.mp h
  obtain ⟨text, -, rfl⟩ := Option.map_eq_some_iff.mp hentry
  exact ⟨setting.1, List.mem_map_of_mem hsetting, rfl⟩

theorem distinct_present {settings : List (String × Option String)}
    (h : (settings.map Prod.fst).Nodup) : DistinctKeys (present settings) := by
  induction settings with
  | nil => exact List.nodup_nil
  | cons setting settings ih =>
    obtain ⟨name, text⟩ := setting
    obtain ⟨hname, hlater⟩ := List.nodup_cons.mp h
    cases text with
    | none => exact ih hlater
    | some t =>
      refine List.nodup_cons.mpr ⟨fun hmem => ?_, ih hlater⟩
      obtain ⟨entry, hentry, hkey⟩ := List.mem_map.mp hmem
      obtain ⟨name', hname', htext⟩ := name_of_mem_present hentry
      rw [htext] at hkey
      cases hkey
      exact hname hname'

theorem distinct_entries (env : Environment) : DistinctKeys env.entries := by
  rw [entries_eq]
  cases env.logLevel <;> simp [DistinctKeys, present, Scalar.asKey]

theorem lookup?_router (env : Environment) :
    Value.lookup? (.text "router") env.entries = some (.mapping env.router) := rfl

theorem lookup?_recovery (env : Environment) :
    Value.lookup? (.text "recovery") env.entries = some (.mapping env.recovery) := rfl

theorem lookup?_ui (env : Environment) :
    Value.lookup? (.text "ui") env.entries = some (.mapping env.ui) := rfl

theorem lookup?_logLevel (env : Environment) :
    Value.lookup? (.text "log_level") env.entries = env.logLevel.map Value.text := by
  rw [entries_eq]
  cases env.logLevel <;> simp [present, Value.lookup?, Scalar.asKey]

end Environment

variable {entries upper : Entries} {env : Environment} {place name : String} {text : Option String}

/-- A section of the file with what the environment has for it on top. -/
def mergedSection (entries : Entries) (place : String) (upper : Entries) : Entries :=
  match Value.lookup? (.text place) entries with
  | some (.mapping below) => merge below upper
  | _ => upper

/-- A variable that is set goes before what the file says, and one that is not leaves it as it
is. -/
theorem lookup?_merge_text (hupper : DistinctKeys upper) (base : Entries)
    (h : Value.lookup? (.text name) upper = text.map Value.text) :
    Value.lookup? (.text name) (merge base upper) =
      source? text (Value.lookup? (.text name) base) := by
  rw [lookup?_merge hupper, h]
  cases text with
  | none => rfl
  | some t => simp [source?, mergeValue, Value.text]

/-- The same for a setting in one of the sections. -/
theorem lookup?_mergedSection (hupper : DistinctKeys upper) (place : String)
    (h : Value.lookup? (.text name) upper = text.map Value.text) :
    Value.lookup? (.text name) (mergedSection entries place upper) =
      source? text (filed? entries place name) := by
  unfold mergedSection filed?
  split
  · exact lookup?_merge_text hupper _ h
  · rw [h, source?, Option.or_none]

theorem lookup?_section (h : Value.lookup? (.text place) env.entries = some (.mapping upper)) :
    Value.lookup? (.text place) (merge entries env.entries) =
      some (.mapping (mergedSection entries place upper)) := by
  rw [lookup?_merge env.distinct_entries, h, mergedSection]
  cases Value.lookup? (.text place) entries with
  | none => rfl
  | some below => cases below <;> rfl

theorem lookup?_logLevel (entries : Entries) (env : Environment) :
    Value.lookup? (.text "log_level") (merge entries env.entries) =
      source? env.logLevel (Value.lookup? (.text "log_level") entries) :=
  lookup?_merge_text env.distinct_entries entries env.lookup?_logLevel

/-! ## The sections -/

/-- The section of the router has trouble with its two settings, and gives both where there is
none. -/
theorem answers_router (entries : Entries) (env : Environment) :
    (RouterSettings.read (mergedSection entries "router" env.router)).Answers
      ((readings entries env).problems .router) fun router =>
        (readings entries env).historySize = .ok router.historySize ∧
          (readings entries env).maxTips = .ok router.maxTips := by
  have hdistinct : DistinctKeys env.router := Environment.distinct_present (by simp)
  have hhistory : Value.lookup? (.text "history_size") env.router =
      env.historySize.map Value.text := by
    simp [Environment.router]
  have htips : Value.lookup? (.text "max_tips") env.router = env.maxTips.map Value.text := by
    simp [Environment.router]
  exact ((answers_setting _ _ _ (lookup?_mergedSection hdistinct "router" hhistory)).both
    (answers_setting _ _ _ (lookup?_mergedSection hdistinct "router" htips))).map fun _ h => h

/-- So has that of the recovery, with its three settings. -/
theorem answers_recovery (entries : Entries) (env : Environment) :
    (RecoverySettings.read (mergedSection entries "recovery" env.recovery)).Answers
      ((readings entries env).problems .recovery) fun recovery =>
        (readings entries env).maxRetries = .ok recovery.maxRetries ∧
          (readings entries env).baseDelay = .ok recovery.baseDelay ∧
            (readings entries env).maxSessions = .ok recovery.maxSessions := by
  have hdistinct : DistinctKeys env.recovery := Environment.distinct_present (by simp)
  have hretries : Value.lookup? (.text "max_retries") env.recovery =
      env.maxRetries.map Value.text := by
    simp [Environment.recovery]
  have hdelay : Value.lookup? (.text "base_delay") env.recovery = env.baseDelay.map Value.text := by
    simp [Environment.recovery]
  have hsessions : Value.lookup? (.text "max_sessions") env.recovery =
      env.maxSessions.map Value.text := by
    simp [Environment.recovery]
  exact ((answers_setting _ _ _ (lookup?_mergedSection hdistinct "recovery" hretries)).both
    ((answers_setting _ _ _ (lookup?_mergedSection hdistinct "recovery" hdelay)).both
      (answers_setting _ _ _ (lookup?_mergedSection hdistinct "recovery" hsessions)))).map
        fun _ h => h

theorem lookup?_uiEntries_of_ne (h : name ≠ "use_colors") (entries : Entries) :
    Value.lookup? (.text name) (uiEntries entries) = Value.lookup? (.text name) entries := by
  unfold uiEntries
  split
  · rw [Value.lookup?_setEntry, if_neg]
    intro heq
    cases heq
    exact h rfl
  · rfl

theorem lookup?_uiEntries_useColours (entries : Entries) :
    Value.lookup? (.text "use_colors") (uiEntries entries) =
      (Value.lookup? (.text "use_colors") entries).map textAsBool := by
  unfold uiEntries
  split
  · next v hv => rw [Value.lookup?_setEntry, if_pos rfl, hv, Option.map_some]
  · next hnone => rw [hnone, Option.map_none]

/-- To turn a text into a truth value first makes no difference to what a switch settles on. -/
theorem settle_map_textAsBool (default : Bool) (source : Option Value) :
    settle default Field.bool (source.map textAsBool) = settle default switch source := by
  cases source <;> rfl

/-- So has that of the appearance, where a text stands for a truth value. -/
theorem answers_ui (entries : Entries) (env : Environment) :
    (UiSettings.read (uiEntries (mergedSection entries "ui" env.ui))).Answers
      ((readings entries env).problems .ui) fun ui =>
        (readings entries env).theme = .ok ui.theme ∧
          (readings entries env).useColours = .ok ui.useColours := by
  have hdistinct : DistinctKeys env.ui := Environment.distinct_present (by simp)
  have htheme : Value.lookup? (.text "theme") (uiEntries (mergedSection entries "ui" env.ui)) =
      filed? entries "ui" "theme" := by
    rw [lookup?_uiEntries_of_ne (by decide)]
    have hnone : Value.lookup? (.text "theme") env.ui = Option.map Value.text none := by
      simp [Environment.ui]
    exact lookup?_mergedSection hdistinct "ui" hnone
  have hcolours : Value.lookup? (.text "use_colors")
      (uiEntries (mergedSection entries "ui" env.ui)) =
        (source? env.useColours (filed? entries "ui" "use_colors")).map textAsBool := by
    have hvariable : Value.lookup? (.text "use_colors") env.ui = env.useColours.map Value.text := by
      simp [Environment.ui]
    rw [lookup?_uiEntries_useColours, lookup?_mergedSection hdistinct "ui" hvariable]
  have hsetting := answers_setting "use_colors" usualSettings.ui.useColours Field.bool hcolours
  rw [settle_map_textAsBool] at hsetting
  exact ((answers_setting _ _ _ htheme).both hsetting).map fun _ h => h

theorem answers_logLevel (entries : Entries) (env : Environment) :
    (AppSettings.readLogLevel (merge entries env.entries)).Answers
      ((readings entries env).problems .logLevel) fun level =>
        (readings entries env).logLevel = .ok level :=
  answers_setting _ _ _ (lookup?_logLevel entries env)

/-! ## All sections -/

theorem sectionEntries_eq {inner merged : Entries}
    (h : Value.lookup? (.text place) merged = some (.mapping inner)) :
    sectionEntries place merged =
      if inner.all fun entry => isText entry.1 then .ok inner else .error .keyIsNoText := by
  rw [sectionEntries, h]
  rfl

theorem all_isText_mergedSection (place : String)
    (hupper : ∀ entry ∈ upper, isText entry.1 = true) :
    (mergedSection entries place upper).all (fun entry => isText entry.1) =
      textKeysIn entries place := by
  unfold mergedSection textKeysIn
  split
  · next below hbelow =>
    rw [Bool.eq_iff_iff, List.all_eq_true, List.all_eq_true]
    exact forall_key_merge (p := fun key => isText key = true) hupper below
  · exact List.all_eq_true.mpr hupper

/-- What comes of reading a group: what is expected, or the failure that its trouble is. -/
def Settled {α : Type} (entries : Entries) (env : Environment) (group : Group)
    (outcome : Except Failure α) (expected : α → Prop) : Prop :=
  (∃ x, outcome = .ok x ∧ expected x ∧ inTrouble entries env group = false) ∨
  (∃ failure, outcome = .error failure ∧ inTrouble entries env group = true ∧
    (textKeys entries group = true → failure = .unfit ((readings entries env).problems group)) ∧
    (textKeys entries group = false → failure = .keyIsNoText))

/-- Where all keys are texts, a section settles what its reading gives. -/
theorem settled_of_answers {α : Type} {reading : Reading α} {group : Group} {expected : α → Prop}
    (hkeys : textKeys entries group = true)
    (h : reading.Answers ((readings entries env).problems group) expected) :
    Settled entries env group (reading.mapError .unfit) expected := by
  rcases h with ⟨x, rfl, hx, hnone⟩ | ⟨rfl, hsome⟩
  · exact Or.inl ⟨x, rfl, hx, by simp [inTrouble, hkeys, hnone]⟩
  · refine Or.inr ⟨_, rfl, by simp [inTrouble, hsome], fun _ => rfl, fun hno => ?_⟩
    rw [hkeys] at hno
    cases hno

/-- A section of merged entries, once it is read. -/
def sectionIn {α : Type} (place : String) (read : Entries → Reading α) (merged : Entries) :
    Except Failure α := do
  (read (← sectionEntries place merged)).mapError .unfit

/-- A section is settled from the file and the variables of that section. -/
theorem settled_section {α : Type} {read : Entries → Reading α} {group : Group}
    {expected : α → Prop} {settings : List (String × Option String)}
    (hplace : group.place? = some place)
    (h : Value.lookup? (.text place) env.entries = some (.mapping (Environment.present settings)))
    (hread : (read (mergedSection entries place (Environment.present settings))).Answers
      ((readings entries env).problems group) expected) :
    Settled entries env group (sectionIn place read (merge entries env.entries)) expected := by
  have hupper : ∀ entry ∈ Environment.present settings, isText entry.1 = true := by
    intro entry hentry
    obtain ⟨name, -, hname⟩ := Environment.name_of_mem_present hentry
    rw [hname]
    rfl
  have hgroup : textKeys entries group = textKeysIn entries place := by rw [textKeys, hplace]; rfl
  rw [sectionIn, sectionEntries_eq (lookup?_section h), all_isText_mergedSection place hupper,
    ← hgroup]
  cases hkeys : textKeys entries group with
  | true => exact settled_of_answers hkeys hread
  | false =>
    refine Or.inr ⟨_, rfl, by simp [inTrouble, hkeys], fun hyes => ?_, fun _ => rfl⟩
    rw [hkeys] at hyes
    cases hyes

theorem settingsIn_eq (merged : Entries) :
    settingsIn merged = do
      let router ← sectionIn "router" RouterSettings.read merged
      let recovery ← sectionIn "recovery" RecoverySettings.read merged
      let ui ← sectionIn "ui" (fun inner => UiSettings.read (uiEntries inner)) merged
      let logLevel ← (AppSettings.readLogLevel merged).mapError .unfit
      return { router, recovery, ui, logLevel } := by
  simp only [settingsIn, sectionIn, bind_assoc]

/-- The groups are read one after the other, and the first one in trouble ends it. -/
theorem settingsIn_cases (entries : Entries) (env : Environment) :
    (∃ settings, settingsIn (merge entries env.entries) = .ok settings ∧
      (readings entries env).Give settings ∧ firstTrouble? entries env = none) ∨
    (∃ failure group, settingsIn (merge entries env.entries) = .error failure ∧
      firstTrouble? entries env = some group ∧
      (textKeys entries group = true → failure = .unfit ((readings entries env).problems group)) ∧
      (textKeys entries group = false → failure = .keyIsNoText)) := by
  rw [settingsIn_eq]
  unfold firstTrouble? Group.all
  rcases settled_section rfl env.lookup?_router (answers_router entries env) with
    ⟨r, hr, hrs, hrfine⟩ | ⟨failure, hr, htrouble, hfailure⟩
  · rcases settled_section rfl env.lookup?_recovery (answers_recovery entries env) with
      ⟨c, hc, hcs, hcfine⟩ | ⟨failure, hc, htrouble, hfailure⟩
    · have hui : Settled entries env .ui
          (sectionIn "ui" (fun inner => UiSettings.read (uiEntries inner))
            (merge entries env.entries)) _ :=
        settled_section rfl env.lookup?_ui (answers_ui entries env)
      rcases hui with ⟨u, hu, hus, hufine⟩ | ⟨failure, hu, htrouble, hfailure⟩
      · rcases settled_of_answers rfl (answers_logLevel entries env) with
          ⟨l, hl, hls, hlfine⟩ | ⟨failure, hl, htrouble, hfailure⟩
        · refine Or.inl ⟨⟨r, c, u, l⟩, by rw [hr, hc, hu, hl]; rfl, ?_, ?_⟩
          · exact ⟨hrs.1, hrs.2, hcs.1, hcs.2.1, hcs.2.2, hus.1, hus.2, hls⟩
          · simp [hrfine, hcfine, hufine, hlfine]
        · refine Or.inr ⟨failure, .logLevel, by rw [hr, hc, hu, hl]; rfl, ?_, hfailure⟩
          simp [hrfine, hcfine, hufine, htrouble]
      · refine Or.inr ⟨failure, .ui, by rw [hr, hc, hu]; rfl, ?_, hfailure⟩
        simp [hrfine, hcfine, htrouble]
    · refine Or.inr ⟨failure, .recovery, by rw [hr, hc]; rfl, ?_, hfailure⟩
      simp [hrfine, htrouble]
  · refine Or.inr ⟨failure, .router, by rw [hr]; rfl, ?_, hfailure⟩
    simp [htrouble]

/-- Loading reads the settings of the file with those of the environment merged over them. -/
theorem load_eq {files : Files} {path : Option String}
    (hcontents : contentsOf files path = .ok (.mapping entries)) (env : Environment) :
    load files path env = settingsIn (merge entries env.entries) := by
  rw [load, hcontents]
  rfl

/-- Where the contents of the file are a mapping, settings that are loaded are those that their own
sources spell. If nothing is loaded, the first group in trouble decides: its problems are reported,
unless a key of its section is no text. -/
theorem load_follows_readings {files : Files} {path : Option String}
    (hcontents : contentsOf files path = .ok (.mapping entries)) (env : Environment) :
    (∀ settings, load files path env = .ok settings →
      (readings entries env).Give settings ∧ firstTrouble? entries env = none) ∧
    (∀ failure, load files path env = .error failure →
      ∃ group, firstTrouble? entries env = some group ∧
        (textKeys entries group = true → failure = .unfit ((readings entries env).problems group)) ∧
        (textKeys entries group = false → failure = .keyIsNoText)) := by
  rw [load_eq hcontents]
  rcases settingsIn_cases entries env with
    ⟨settings, hread, hgive, hnone⟩ | ⟨failure, group, hread, hgroup, hfailure⟩
  · refine ⟨fun settings' hsettings => ?_, fun failure hfailure => ?_⟩
    · cases hread.symm.trans hsettings
      exact ⟨hgive, hnone⟩
    · cases hread.symm.trans hfailure
  · refine ⟨fun settings hsettings => ?_, fun failure' hfails => ?_⟩
    · cases hread.symm.trans hsettings
    · cases hread.symm.trans hfails
      exact ⟨group, hgroup, hfailure⟩

/-! ### A file with a hole

The section of the router holds nothing and that of the user interface is a list, so both are read
from the environment alone. One environment asks for more attempts, and the other one has mistakes
in two groups. -/

def holedFile : Files where
  texts := [(["home", "config.json"],
    "\x7b\"router\": null, \"recovery\": \x7b\"max_retries\": 2\x7d, \"ui\": [1]\x7d")]
  directories := []
  current := ["home"]
  home := ["home"]

def patient : Environment := { maxRetries := some "5", logLevel := some "debug" }

def careless : Environment := { maxRetries := some "eleven", logLevel := some "loud" }

def patientSettings : AppSettings where
  recovery := { maxRetries := 5 }
  logLevel := "DEBUG"

/-- Contents are a mapping with a property. -/
def isMappingWith (p : Entries → Bool) : Except Failure Value → Bool
  | .ok (.mapping entries) => p entries
  | _ => false

theorem exists_of_isMappingWith {p : Entries → Bool} {contents : Except Failure Value}
    (h : isMappingWith p contents = true) :
    ∃ entries, contents = .ok (.mapping entries) ∧ p entries = true := by
  unfold isMappingWith at h
  split at h
  · next entries => exact ⟨entries, rfl, h⟩
  · cases h

theorem load_holedFile :
    ∃ entries, contentsOf holedFile none = .ok (.mapping entries) ∧
      (readings entries patient).Give patientSettings ∧
      ∃ group, firstTrouble? entries careless = some group ∧
        (readings entries careless).problems group = [⟨["max_retries"], .intParsing⟩] := by
  have hmapping : isMappingWith (fun entries =>
      settingsIn (merge entries patient.entries) = .ok patientSettings ∧
        settingsIn (merge entries careless.entries) =
          .error (.unfit [⟨["max_retries"], .intParsing⟩]) ∧
        ∀ group ∈ Group.all, textKeys entries group = true) (contentsOf holedFile none) = true := by
    decide +kernel
  obtain ⟨entries, hcontents, hreads⟩ := exists_of_isMappingWith hmapping
  obtain ⟨hpatient, hcareless, hkeys⟩ := of_decide_eq_true hreads
  rw [← load_eq hcontents] at hpatient hcareless
  obtain ⟨hgive, -⟩ := (load_follows_readings hcontents patient).1 _ hpatient
  obtain ⟨group, hgroup, hunfit, -⟩ := (load_follows_readings hcontents careless).2 _ hcareless
  have hproblems := hunfit (hkeys group (List.mem_of_find?_eq_some hgroup))
  injection hproblems with hproblems
  exact ⟨entries, hcontents, hgive, group, hgroup, hproblems.symm⟩

end SlashLine.Config
