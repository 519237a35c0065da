import RepoSurvey.Proofs.Settings.Checked
import RepoSurvey.Settings.Source

/-!
# Which source a setting is taken from

`Sources.value` is what the strongest of the sources states for a setting: what is said when a
survey is started, then the environment, then the file that is named, the one of the directory
and the one of the user, and at last the default. A switch stands for a verbosity, and silence
wins (`overrideValue?`).

There are settings exactly if every file is absent or a document, the named one is there, every
variable can be read, every name is that of a setting and the limits are in range, and then
every setting is taken from the strongest source (`settings_eq_ok_iff`). Otherwise there is an
error, and it is one that is reported unless it cannot even be told whether a file is there
(`settings_unreported_iff`): this is looked at before anything is caught.
-/

namespace RepoSurvey

open Fields SettingName

/-! ## The environment -/

namespace Variables

/-- The value that variables state for a setting. -/
def value? (vars : Variables) (setting : SettingName) : Option SettingValue :=
  (vars.lookup setting.variableName).bind fun text => (setting.readVariable text).toOption.join

/-- The variable of a setting can be read, if it is there. -/
def Reads (vars : Variables) (setting : SettingName) : Prop :=
  ∀ text, vars.lookup setting.variableName = some text → ∃ v, setting.readVariable text = .ok v

variable {vars : Variables}

/-- A variable is read exactly where its text can be, and gives its setting's field. -/
theorem field?_eq_ok_iff {setting : SettingName} {field : Option (String × SettingValue)} :
    vars.field? setting = .ok field ↔
      vars.Reads setting ∧ field = (vars.value? setting).map (setting.label, ·) := by
  rw [field?, Reads, value?]
  cases vars.lookup setting.variableName with
  | none => simp [eq_comm]
  | some text =>
    cases read : setting.readVariable text with
    | ok v => simp [read, Except.toOption, eq_comm]
    | error why => simp [read]

/-- The fields of some settings are those that their variables state. -/
theorem fieldsFor_eq_ok_iff {settings : List SettingName} {fields : Fields} :
    vars.fieldsFor settings = .ok fields ↔
      (∀ setting, setting ∈ settings → vars.Reads setting) ∧
        fields = settings.filterMap fun setting =>
          (vars.value? setting).map (setting.label, ·) := by
  induction settings generalizing fields with
  | nil => simp [fieldsFor, eq_comm]
  | cons setting rest ih =>
    rw [fieldsFor, List.filterMap_cons]
    simp only [Result.bind_eq_ok_iff, field?_eq_ok_iff, ih, List.forall_mem_cons, pure, Except.pure,
      Except.ok.injEq]
    constructor
    · rintro ⟨_, ⟨reads, rfl⟩, _, ⟨others, rfl⟩, rfl⟩
      refine ⟨⟨reads, others⟩, ?_⟩
      cases vars.value? setting <;> rfl
    · rintro ⟨⟨reads, others⟩, rfl⟩
      refine ⟨_, ⟨reads, rfl⟩, _, ⟨others, rfl⟩, ?_⟩
      cases vars.value? setting <;> rfl

/-- The fields that variables state, when all can be read. -/
def stated (vars : Variables) : Fields :=
  SettingName.all.filterMap fun setting => (vars.value? setting).map (setting.label, ·)

theorem mem_all (setting : SettingName) : setting ∈ SettingName.all := by
  cases setting <;> decide

/-- Variables are read exactly where each of them is, and give what they state. -/
theorem fields_eq_ok_iff {fields : Fields} :
    vars.fields = .ok fields ↔ (∀ setting, vars.Reads setting) ∧ fields = vars.stated := by
  rw [Variables.fields, fieldsFor_eq_ok_iff, stated]
  constructor
  · rintro ⟨reads, same⟩
    exact ⟨fun setting => reads setting (mem_all setting), same⟩
  · rintro ⟨reads, same⟩
    exact ⟨fun setting _ => reads setting, same⟩

/-- A table that has a field for each setting with a value answers with these values. -/
theorem lookup_filterMap_label (f : SettingName → Option SettingValue)
    (settings : List SettingName) (setting : SettingName) :
    (settings.filterMap fun s => (f s).map (s.label, ·)).lookup setting.label =
      if setting ∈ settings then f setting else none := by
  induction settings with
  | nil => rfl
  | cons first rest ih =>
    rw [List.filterMap_cons]
    by_cases same : setting = first
    · subst same
      cases value : f setting with
      | some v => simp
      | none => simp [ih, value]
    · have apart : (setting.label == first.label) = false :=
        beq_eq_false_iff_ne.mpr fun h => same (label_injective h)
      cases value : f first with
      | some v => simp [List.lookup_cons, apart, ih, same]
      | none => simp [ih, same]

/-- What variables state under a label is the value of its variable. -/
theorem lookup_stated (vars : Variables) (setting : SettingName) :
    vars.stated.lookup setting.label = vars.value? setting := by
  rw [stated, lookup_filterMap_label, if_pos (mem_all setting)]

/-- Variables state only settings. -/
theorem isLabel_of_mem_stated {name : String} (h : name ∈ vars.stated.names) : IsLabel name := by
  obtain ⟨f, hf, rfl⟩ := List.mem_map.mp h
  obtain ⟨setting, -, hs⟩ := List.mem_filterMap.mp hf
  obtain ⟨v, -, rfl⟩ := Option.map_eq_some_iff.mp hs
  exact ⟨setting, rfl⟩

/-- Variables name each setting once. -/
theorem isTable_stated (vars : Variables) : vars.stated.IsTable := by
  have distinct : SettingName.all.Nodup := by decide
  rw [IsTable, Fields.names, stated, List.map_filterMap]
  refine distinct.filterMap fun s t name hs ht => ?_
  obtain ⟨_, -, rfl⟩ := Option.map_eq_some_iff.mp (Option.map_map _ _ _ ▸ hs)
  obtain ⟨_, -, same⟩ := Option.map_eq_some_iff.mp (Option.map_map _ _ _ ▸ ht)
  exact (label_injective same).symm

end Variables

/-! ## What is said when a survey is started -/

/-- A switch is there and is on. -/
def isOn (overrides : Fields) (switch : String) : Bool :=
  (overrides.lookup switch).any (·.counts)

/-- The value that is said for a setting: for the verbosity that of a switch which is on, that
for silence first. -/
def overrideValue? (overrides : Fields) (setting : SettingName) : Option SettingValue :=
  if setting = .verbosity ∧ isOn overrides "quiet" then some (.text Verbosity.quiet.label)
  else if setting = .verbosity ∧ isOn overrides "verbose" then
    some (.text Verbosity.verbose.label)
  else overrides.lookup setting.label

namespace Sources

section Switch

variable {fields : Fields} {switch name : String} {v : Verbosity}

/-- What a switch turns fields into. -/
theorem applySwitch_eq :
    applySwitch switch v fields = List.filter (·.1 != switch)
      (if isOn fields switch then fields.insert SettingName.verbosity.label (.text v.label)
        else fields) := by
  rw [applySwitch, isOn]
  cases there : fields.lookup switch with
  | none =>
    have absent := lookup_eq_none_iff.mp there
    refine (List.filter_eq_self.mpr fun f hf => ?_).symm
    exact bne_iff_ne.mpr fun same => absent (same ▸ List.mem_map_of_mem hf)
  | some value => rfl

/-- A switch that is on decides the verbosity, and no other field. -/
theorem lookup_applySwitch (other : name ≠ switch) :
    (applySwitch switch v fields).lookup name =
      if name = SettingName.verbosity.label ∧ isOn fields switch then some (.text v.label)
      else fields.lookup name := by
  rw [applySwitch_eq, lookup_without, if_neg other]
  by_cases on : isOn fields switch = true
  · simp [on, lookup_insert]
  · simp [on]

/-- A switch goes, and brings the verbosity in if it is on. -/
theorem mem_names_applySwitch :
    name ∈ (applySwitch switch v fields).names ↔
      (name ∈ fields.names ∨ isOn fields switch ∧ name = SettingName.verbosity.label) ∧
        name ≠ switch := by
  rw [applySwitch_eq, mem_names_without]
  by_cases on : isOn fields switch = true
  · simp [on, mem_names_insert]
  · simp [on]

/-- Applying a switch keeps names distinct. -/
theorem isTable_applySwitch (table : fields.IsTable) : (applySwitch switch v fields).IsTable := by
  rw [applySwitch_eq]
  by_cases on : isOn fields switch = true
  · rw [if_pos on]
    exact table.insert.without
  · rw [if_neg on]
    exact table.without

end Switch

/-- No setting is called like a switch. -/
theorem label_ne_switch (setting : SettingName) :
    setting.label ≠ "quiet" ∧ setting.label ≠ "verbose" := by
  cases setting <;> decide

/-- What the overrides say of a setting, the switches counted. -/
theorem lookup_overrideFields (overrides : Fields) (setting : SettingName) :
    (overrideFields overrides).lookup setting.label = overrideValue? overrides setting := by
  have quiet :
      isOn (applySwitch "verbose" .verbose overrides) "quiet" = isOn overrides "quiet" := by
    rw [isOn, lookup_applySwitch (by decide), if_neg (fun h => absurd h.1 (by decide)), isOn]
  have word : setting.label = SettingName.verbosity.label ↔ setting = .verbosity :=
    label_injective.eq_iff
  rw [overrideFields, lookup_applySwitch (label_ne_switch setting).1,
    lookup_applySwitch (label_ne_switch setting).2, quiet, overrideValue?]
  simp only [word]

/-- What is said may have names that are none of a setting's, apart from the switches. -/
theorem names_overrideFields {overrides : Fields} :
    (∀ name, name ∈ (overrideFields overrides).names → IsLabel name) ↔
      ∀ name, name ∈ overrides.names → name = "quiet" ∨ name = "verbose" ∨ IsLabel name := by
  simp only [overrideFields, mem_names_applySwitch]
  constructor
  · intro known name said
    by_cases quiet : name = "quiet"
    · exact Or.inl quiet
    · by_cases verbose : name = "verbose"
      · exact Or.inr (Or.inl verbose)
      · exact Or.inr (Or.inr (known name ⟨Or.inl ⟨Or.inl said, verbose⟩, quiet⟩))
  · rintro known name ⟨(⟨said | ⟨-, rfl⟩, verbose⟩ | ⟨-, rfl⟩), quiet⟩
    · rcases known name said with h | h | h
      · exact absurd h quiet
      · exact absurd h verbose
      · exact h
    · exact ⟨.verbosity, rfl⟩
    · exact ⟨.verbosity, rfl⟩

end Sources

/-! ## Files -/

namespace SettingsFile

/-- The fields that a file states; none where there is no document. -/
def stated : SettingsFile → Fields
  | document fields => settings fields
  | _ => []

/-- A file is not there, or a document can be read from it. -/
inductive Usable : SettingsFile → Prop
  | absent : Usable .absent
  | document (fields : Fields) : Usable (.document fields)

/-- It cannot even be told whether a file is there. -/
def Untold (file : SettingsFile) : Prop := ∃ why, file = .unreachable why

end SettingsFile

namespace Sources

/-- The file of a role, if there is one. -/
def file? (s : Sources) : FileRole → Option SettingsFile
  | .global => some s.global.2
  | .project => some s.project.2
  | .named => s.named.map (·.2)

/-- The fields that the file of a role states. -/
def stated (s : Sources) (role : FileRole) : Fields :=
  ((s.file? role).map (·.stated)).getD []

/-- What the sources state for a setting, the strongest first. -/
def statements (s : Sources) (setting : SettingName) : List (Option SettingValue) :=
  [overrideValue? s.overrides setting,
   s.environment.value? setting,
   (s.stated .named).lookup setting.label,
   (s.stated .project).lookup setting.label,
   (s.stated .global).lookup setting.label]

/-- The fields of all sources, each merged into those of the weaker ones. -/
def merged (s : Sources) : Fields :=
  ((((s.stated .global).merge (s.stated .project)).merge (s.stated .named)).merge
    s.environment.stated).merge (overrideFields s.overrides)

/-- The value of a setting that the strongest source states, or else its default. -/
def value (s : Sources) (setting : SettingName) : SettingValue :=
  ((s.statements setting).findSome? id).getD (Settings.defaultValue setting)

/-- Every source can be read: its file is absent or a document, the one that is named is there,
and every variable of a setting has a text that can be read. -/
structure Readable (s : Sources) : Prop where
  global : s.global.2.Usable
  project : s.project.2.Usable
  named : ∀ file, s.named = some file → ∃ fields, file.2 = .document fields
  environment : ∀ setting, s.environment.Reads setting

/-- Every name that is stated is that of a setting; what is said may have switches besides. -/
structure Known (s : Sources) : Prop where
  files : ∀ role name, name ∈ (s.stated role).names → IsLabel name
  overrides : ∀ name, name ∈ s.overrides.names →
    name = "quiet" ∨ name = "verbose" ∨ IsLabel name

/-- Every source gives each of its names once. -/
structure Tables (s : Sources) : Prop where
  files : ∀ role, (s.stated role).IsTable
  overrides : s.overrides.IsTable

/-- Of one of the files it cannot even be told whether it is there, and those before it are in
order. -/
inductive Unseen (s : Sources) : Prop
  | global (untold : s.global.2.Untold)
  | project (before : s.global.2.Usable) (untold : s.project.2.Untold)
  | named (before : s.global.2.Usable) (before' : s.project.2.Usable)
      (file : String × SettingsFile) (given : s.named = some file) (untold : file.2.Untold)

variable {s : Sources} {c : Settings} {fields : Fields}

/-- A settings file is read exactly where it can be used, and gives what it states. -/
theorem optionalFields_eq_ok_iff {role : FileRole} {file : String × SettingsFile} :
    optionalFields role file = .ok fields ↔ file.2.Usable ∧ fields = file.2.stated := by
  obtain ⟨path, found⟩ := file
  constructor
  · intro h
    cases found with
    | absent => exact ⟨.absent, (Except.ok.inj h).symm⟩
    | document d => exact ⟨.document d, (Except.ok.inj h).symm⟩
    | unreachable why => cases h
    | invalid => cases h
  · rintro ⟨usable, rfl⟩
    cases usable with
    | absent => rfl
    | document d => rfl

/-- A file that is asked for is read exactly where it holds a document. -/
theorem namedFields_eq_ok_iff :
    namedFields s.named = .ok fields ↔
      (∀ file, s.named = some file → ∃ d, file.2 = .document d) ∧ fields = s.stated .named := by
  rw [stated, file?]
  cases given : s.named with
  | none => simp [namedFields, eq_comm]
  | some file =>
    obtain ⟨path, found⟩ := file
    cases found with
    | absent => simp [namedFields]
    | _ => simp [namedFields, optionalFields, SettingsFile.stated, eq_comm]

/-- The sources are read exactly where each of them can be, and are merged. -/
theorem fields_eq_ok_iff :
    s.fields = .ok fields ↔ s.Readable ∧ fields = s.merged := by
  simp only [Sources.fields, Result.bind_eq_ok_iff, Result.mapError_eq_ok_iff,
    optionalFields_eq_ok_iff, namedFields_eq_ok_iff, Variables.fields_eq_ok_iff, pure, Except.pure,
    Except.ok.injEq]
  constructor
  · rintro ⟨_, ⟨global, rfl⟩, _, ⟨project, rfl⟩, _, ⟨named, rfl⟩, _, ⟨environment, rfl⟩, rfl⟩
    exact ⟨⟨global, project, named, environment⟩, rfl⟩
  · rintro ⟨readable, rfl⟩
    exact ⟨_, ⟨readable.global, rfl⟩, _, ⟨readable.project, rfl⟩, _, ⟨readable.named, rfl⟩, _,
      ⟨readable.environment, rfl⟩, rfl⟩

/-- The names of all sources are those of settings. -/
theorem names_merged_iff :
    (∀ name, name ∈ s.merged.names → IsLabel name) ↔ s.Known := by
  simp only [merged, mem_names_merge]
  constructor
  · intro known
    refine ⟨fun role name h => ?_, names_overrideFields.mp fun name h => known name (Or.inr h)⟩
    cases role with
    | global => exact known name (Or.inl (Or.inl (Or.inl (Or.inl h))))
    | project => exact known name (Or.inl (Or.inl (Or.inl (Or.inr h))))
    | named => exact known name (Or.inl (Or.inl (Or.inr h)))
  · rintro known name ((((h | h) | h) | h) | h)
    · exact known.files .global name h
    · exact known.files .project name h
    · exact known.files .named name h
    · exact Variables.isLabel_of_mem_stated h
    · exact names_overrideFields.mpr known.overrides name h

/-- Of the merged fields the strongest source is found. -/
theorem given_merged (tables : s.Tables) (setting : SettingName) (default : SettingValue) :
    Settings.given s.merged setting default =
      ((s.statements setting).findSome? id).getD default := by
  have said : (overrideFields s.overrides).IsTable :=
    isTable_applySwitch (isTable_applySwitch tables.overrides)
  rw [Settings.given, merged, lookup_merge said, lookup_merge (Variables.isTable_stated _),
    lookup_merge (tables.files .named), lookup_merge (tables.files .project),
    lookup_overrideFields, Variables.lookup_stated, statements]
  cases overrideValue? s.overrides setting with
  | some v => rfl
  | none =>
    cases s.environment.value? setting with
    | some v => rfl
    | none =>
      cases (s.stated .named).lookup setting.label with
      | some v => rfl
      | none =>
        cases (s.stated .project).lookup setting.label with
        | some v => rfl
        | none =>
          cases (s.stated .global).lookup setting.label with
          | some v => rfl
          | none => rfl

/-- **When there are settings, and which.** -/
theorem settings_eq_ok_iff (tables : s.Tables) :
    s.settings = .ok c ↔
      s.Readable ∧ s.Known ∧ (∀ setting, c.value setting = s.value setting) ∧ c.InRange := by
  simp only [Sources.settings, Result.bind_eq_ok_iff, Result.mapError_eq_ok_iff, fields_eq_ok_iff,
    Settings.ofFields_eq_ok_iff]
  constructor
  · rintro ⟨_, ⟨readable, rfl⟩, known, values, range⟩
    refine ⟨readable, names_merged_iff.mp known, fun setting => ?_, range⟩
    rw [values, given_merged tables, value]
  · rintro ⟨readable, known, values, range⟩
    refine ⟨_, ⟨readable, rfl⟩, names_merged_iff.mpr known, fun setting => ?_, range⟩
    rw [values, given_merged tables, value]

/-! ## What is not reported -/

/-- Looking for a settings file fails exactly where the system does not tell whether it is there.
-/
theorem optionalFields_unreachable_iff {role : FileRole} {file : String × SettingsFile}
    {why : AccessError} {path : String} :
    optionalFields role file = .error (.unreachable why path) ↔
      file = (path, .unreachable why) := by
  obtain ⟨given, found⟩ := file
  cases found with
  | unreachable reason => simp [optionalFields, and_comm]
  | _ => simp [optionalFields]

/-- Reading a file that is asked for fails in the system exactly where its path cannot be
followed. -/
theorem namedFields_unreachable_iff {file : Option (String × SettingsFile)} {why : AccessError}
    {path : String} :
    namedFields file = .error (.unreachable why path) ↔ file = some (path, .unreachable why) := by
  cases file with
  | none => simp [namedFields]
  | some file =>
    obtain ⟨given, found⟩ := file
    cases found with
    | absent => simp [namedFields]
    | _ => simp [namedFields, optionalFields, and_comm]

/-- Of the variables and of the merged fields nothing comes that is not reported. -/
theorem fields_unreachable_iff {why : AccessError} {path : String} :
    s.fields = .error (.unreachable why path) ↔
      s.global = (path, .unreachable why) ∨
      s.global.2.Usable ∧ s.project = (path, .unreachable why) ∨
      s.global.2.Usable ∧ s.project.2.Usable ∧ s.named = some (path, .unreachable why) := by
  simp only [Sources.fields, Result.bind_eq_error_iff, Result.mapError_eq_error_iff,
    optionalFields_unreachable_iff, namedFields_unreachable_iff, optionalFields_eq_ok_iff, pure,
    Except.pure, reduceCtorEq, and_false, exists_false, or_false]
  constructor
  · rintro (global | ⟨_, ⟨usable, -⟩, project | ⟨_, ⟨usable', -⟩, named⟩⟩)
    · exact Or.inl global
    · exact Or.inr (Or.inl ⟨usable, project⟩)
    · exact Or.inr (Or.inr ⟨usable, usable', named⟩)
  · rintro (global | ⟨usable, project⟩ | ⟨usable, usable', named⟩)
    · exact Or.inl global
    · exact Or.inr ⟨_, ⟨usable, rfl⟩, Or.inl project⟩
    · exact Or.inr ⟨_, ⟨usable, rfl⟩, Or.inr ⟨_, ⟨usable', rfl⟩, named⟩⟩

/-- Making settings fails in the system exactly where reading the sources does. -/
theorem settings_unreachable_iff {why : AccessError} {path : String} :
    s.settings = .error (.unreachable why path) ↔ s.fields = .error (.unreachable why path) := by
  simp only [Sources.settings, Result.bind_eq_error_iff, Result.mapError_eq_error_iff,
    reduceCtorEq, and_false, exists_false, or_false]

/-- **Which errors are not reported**: those of a file of which it cannot be told whether it is
there. -/
theorem settings_unreported_iff :
    (∃ e, s.settings = .error e ∧ e.failure? = none) ↔ s.Unseen := by
  constructor
  · rintro ⟨e, failed, unreported⟩
    cases e with
    | unreachable why path =>
      rw [settings_unreachable_iff, fields_unreachable_iff] at failed
      rcases failed with global | ⟨usable, project⟩ | ⟨usable, usable', named⟩
      · exact .global ⟨why, congrArg Prod.snd global⟩
      · exact .project usable ⟨why, congrArg Prod.snd project⟩
      · exact .named usable usable' _ named ⟨why, rfl⟩
    | _ => cases unreported
  · have unreported : ∀ why path, s.fields = .error (.unreachable why path) →
        ∃ e, s.settings = .error e ∧ e.failure? = none :=
      fun why path failed => ⟨.unreachable why path, settings_unreachable_iff.mpr failed, rfl⟩
    rintro (⟨why, found⟩ | ⟨usable, why, found⟩ | ⟨usable, usable', file, given, why, found⟩)
    · exact unreported why s.global.1 (fields_unreachable_iff.mpr (Or.inl (Prod.ext rfl found)))
    · exact unreported why s.project.1
        (fields_unreachable_iff.mpr (Or.inr (Or.inl ⟨usable, Prod.ext rfl found⟩)))
    · have named : s.named = some (file.1, .unreachable why) := found ▸ given
      exact unreported why file.1
        (fields_unreachable_iff.mpr (Or.inr (Or.inr ⟨usable, usable', named⟩)))

end Sources

end RepoSurvey
