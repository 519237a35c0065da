import RepoSurvey.Proofs.Path.Segments
import RepoSurvey.Proofs.Settings.Merged
import RepoSurvey.Proofs.Toml.Tables
import RepoSurvey.Proofs.Tree.Names
import RepoSurvey.Survey.Workspace

/-!
# The settings of a workspace

What was found of sources in `Proofs/Settings/Merged` holds of every workspace: the documents
in it give each name once, and so does what is said when a survey is started, by hypothesis
(`settings_spec`). Of the environment only the variables of settings matter, and that of the
excluded globs does not.

Not every error is one that is reported. Whether a file is there is asked before anything is
caught, and of a path that is too long this cannot be told, be it that of the user's own file
(`settings_longHome`) or one that is named (`settings_unreported_longName`).
-/

namespace RepoSurvey

open Fields

namespace Variables

variable {vars vars' : Variables}

/-- Variables that agree where a setting is read from state the same. -/
theorem fields_congr
    (same : ∀ setting : SettingName, setting ≠ .excludePatterns →
      vars.lookup setting.variableName = vars'.lookup setting.variableName) :
    vars.fields = vars'.fields := by
  have each : ∀ setting, vars.field? setting = vars'.field? setting := by
    intro setting
    by_cases globs : setting = .excludePatterns
    · -- whatever its variable says, nothing is read from it
      subst globs
      have nothing : ∀ vars : Variables, vars.field? .excludePatterns = .ok none := by
        intro vars
        rw [field?]
        cases vars.lookup (SettingName.variableName .excludePatterns) <;> rfl
      rw [nothing, nothing]
    · rw [field?, field?, same setting globs]
  have all : ∀ settings, vars.fieldsFor settings = vars'.fieldsFor settings := by
    intro settings
    induction settings with
    | nil => rfl
    | cons setting rest ih => rw [fieldsFor, fieldsFor, each, ih]
  exact all SettingName.all

end Variables

/-- What a document states as settings names each once. -/
theorem SettingsFile.isTable_settings {document : Fields} (h : document.Unambiguous) :
    (settings document).IsTable := by
  rw [settings]
  split
  · next fields found => exact Unambiguous.isTable (h.lookup found)
  · exact h.isTable

namespace Workspace

variable {w : Workspace} {named : Option String} {overrides : Fields}

/-- What a settings file of a workspace states gives each name once. -/
theorem isTable_settingsFile (w : Workspace) (path : String) :
    (w.settingsFile path).stated.IsTable := by
  rw [settingsFile.eq_def]
  split
  · split <;> exact List.nodup_nil
  · exact List.nodup_nil
  · split
    · next document found =>
      obtain ⟨text, -, read⟩ := Option.bind_eq_some_iff.mp found
      exact SettingsFile.isTable_settings (Toml.unambiguous_read read)
    · exact List.nodup_nil
  · exact List.nodup_nil

/-- All sources of a workspace name each setting once. -/
theorem tables_sources (distinct : overrides.IsTable) : (w.sources named overrides).Tables := by
  refine ⟨fun role => ?_, distinct⟩
  cases role with
  | global => exact isTable_settingsFile w _
  | project => exact isTable_settingsFile w _
  | named =>
    cases named with
    | none => exact List.nodup_nil
    | some path => exact isTable_settingsFile w _

/-- **How settings are merged and how that fails.** There are settings exactly if every source
can be read, all names are known and the limits are in range, and each setting then has the
value of the strongest source that states it. An error is reported unless of one of the files it
cannot be told whether it is there. A variable matters only where a setting is read from it. -/
theorem settings_spec (w : Workspace) (named : Option String) (distinct : overrides.IsTable) :
    (∀ c, w.settings named overrides = .ok c ↔
      (w.sources named overrides).Readable ∧ (w.sources named overrides).Known ∧
        (∀ setting, c.value setting = (w.sources named overrides).value setting) ∧ c.InRange) ∧
      ((∃ e, w.settings named overrides = .error e ∧ e.failure? = none) ↔
        (w.sources named overrides).Unseen) ∧
      ∀ environment : Variables,
        (∀ setting : SettingName, setting ≠ .excludePatterns →
          environment.lookup setting.variableName = w.environment.lookup setting.variableName) →
        ({ w with environment } : Workspace).settings named overrides =
          w.settings named overrides := by
  refine ⟨fun c => Sources.settings_eq_ok_iff (tables_sources distinct),
    Sources.settings_unreported_iff, fun environment same => ?_⟩
  have fields : (({ w with environment } : Workspace).sources named overrides).fields =
      (w.sources named overrides).fields := by
    rw [Sources.fields, Sources.fields]
    have read : environment.fields = w.environment.fields := Variables.fields_congr same
    simp only [sources, read]
    rfl
  rw [settings, settings, Sources.settings, Sources.settings, fields]

/-- A workspace whose directory has a settings file and whose environment states two settings. -/
def statedWorkspace : Workspace where
  top := .directory [("codeatlas.toml",
    .file ("feature_max_depth = 4\nverbosity = 'verbose'".toUTF8.data.toList))]
  environment := [("CODEATLAS_FEATURE_MAX_DEPTH", "3"), ("CODEATLAS_EXCLUDE_PATTERNS", "*.js")]

/-- The settings of the workspace under a switch. -/
def statedSettings : Settings := { depth := .number (.integer 3), verbosity := .quiet }

/-- A file and a switch, which are read as they say. -/
theorem settings_spec_stated :
    IsTable [("quiet", SettingValue.truth true)] ∧
      statedWorkspace.settings none [("quiet", .truth true)] = .ok statedSettings ∧
      ∀ setting, statedSettings.value setting =
        (statedWorkspace.sources none [("quiet", .truth true)]).value setting := by
  have distinct : IsTable [("quiet", SettingValue.truth true)] := by decide
  have merged : statedWorkspace.settings none [("quiet", .truth true)] = .ok statedSettings := by
    rfl
  obtain ⟨-, -, values, -⟩ := ((settings_spec statedWorkspace none distinct).1 _).mp merged
  exact ⟨distinct, merged, values⟩

end Workspace

/-! ## Paths that are too long -/

namespace Path

variable {name : String}

/-- A name is the one name of its path. -/
theorem named_of_isName (h : IsName name) : named name = [name] := by
  rw [named, segments_of_flat h.flat]
  simp [h.ne_empty, h.ne_dot]

/-- A name is a clean path. -/
theorem clean_of_isName (h : IsName name) : clean name = name := by
  have slashes : leadingSlashes name = "" := by
    rw [leadingSlashes, startsWith_eq_false "//" (by decide) h.flat,
      startsWith_eq_false "/" (by decide) h.flat]
    rfl
  rw [clean, slashes, named_of_isName h]
  simp [h.ne_empty]

end Path

/-- A name is one step. -/
theorem Tree.steps_of_isName {name : String} (h : IsName name) : steps name = [name] := by
  rw [steps, Path.segments_of_flat h.flat, Path.endsWith_eq_false "/" (by decide) h.flat]
  simp [h.ne_empty]

namespace Workspace

section TooLong

variable {w : Workspace} {entries : Entries} {name : String}

/-- Of a path that is too long as a whole it cannot be told whether something is there. -/
theorem settingsFile_longPath {path : String} (long : Tree.isTooLong path = true)
    (noNull : Path.holdsNull path = false) :
    w.settingsFile path = .unreachable .nameTooLong := by
  have found : w.find path = .error .nameTooLong := by
    rw [find, Tree.findPath, Tree.stepsWithin, long]
    rfl
  rw [settingsFile, found]
  simp [noNull]

/-- Nor of a name that is longer than a name may be. -/
theorem settingsFile_longName (there : w.top.at? w.here = some (.directory entries))
    (isName : IsName name) (noNull : Path.holdsNull name = false)
    (long : Tree.maxNameSize < name.utf8ByteSize) (short : Tree.isTooLong name = false) :
    w.settingsFile name = .unreachable .nameTooLong := by
  have start : w.start name = w.here := by
    rw [Workspace.start, Path.startsWith_eq_false "/" (by decide) isName.flat]
    rfl
  have steps : Tree.stepsWithin name = .ok [name] := by
    rw [Tree.stepsWithin, short, Tree.steps_of_isName isName]
    rfl
  have found : w.find name = .error .nameTooLong := by
    rw [find, start, Tree.findPath, steps]
    show Tree.find w.top w.here [name] = _
    rw [Tree.find, Tree.follow, Tree.maxLinks, Tree.followWithin, Tree.followNames,
      List.reverse_reverse, there]
    simp [isName.ne_dot, isName.ne_dots, long, bind, Except.bind]
  rw [settingsFile, found]
  simp [noNull]

/-- Where it cannot be told whether the user has a settings file there are no settings, and nothing
is reported, whatever is said in any place. -/
theorem settings_untoldHome {why : AccessError}
    (untold : w.settingsFile w.globalPath = .unreachable why) (named : Option String)
    (overrides : Fields) :
    w.settings named overrides = .error (.unreachable why w.globalPath) := by
  have global : (w.sources named overrides).global = (w.globalPath, .unreachable why) := by
    rw [← untold]
    rfl
  exact Sources.settings_unreachable_iff.mpr (Sources.fields_unreachable_iff.mpr (Or.inl global))

/-- So it is where the home of the user lies too deep. -/
theorem settings_longHome (long : Tree.isTooLong w.globalPath = true)
    (noNull : Path.holdsNull w.globalPath = false) (named : Option String) (overrides : Fields) :
    w.settings named overrides = .error (.unreachable .nameTooLong w.globalPath) :=
  settings_untoldHome (settingsFile_longPath long noNull) named overrides

/-- Where a name is given that is too long, the other files being in order, there are no settings
and nothing is reported, whatever is said besides. -/
theorem settings_longName (there : w.top.at? w.here = some (.directory entries))
    (isName : IsName name) (noNull : Path.holdsNull name = false)
    (long : Tree.maxNameSize < name.utf8ByteSize) (short : Tree.isTooLong name = false)
    (global : (w.settingsFile w.globalPath).Usable)
    (project : (w.settingsFile w.projectPath).Usable) (overrides : Fields) :
    w.settings (some name) overrides = .error (.unreachable .nameTooLong name) := by
  have named : (w.sources (some name) overrides).named =
      some (name, .unreachable .nameTooLong) := by
    simp only [sources, Option.map_some, Path.clean_of_isName isName,
      settingsFile_longName there isName noNull long short]
  exact Sources.settings_unreachable_iff.mpr
    (Sources.fields_unreachable_iff.mpr (Or.inr (Or.inr ⟨global, project, named⟩)))

end TooLong

/-- An error of the load is not always one that is reported: a file is asked for by a name that is
too long. -/
theorem settings_unreported_longName :
    ¬ ∀ (w : Workspace) (named : Option String) (overrides : Fields) (e : LoadError),
      w.settings named overrides = .error e → (e.failure?).isSome = true := by
  intro reported
  have noNull : Path.holdsNull (longName 'a' 256 "") = false := by
    have absent : '\x00' ∉ (longName 'a' 256 "").toList := fun null =>
      absurd ((mem_longName null).resolve_right (by simp)) (by decide)
    simpa [Path.holdsNull] using absent
  have isName : IsName (longName 'a' 256 "") :=
    isName_longName (by decide) (by decide) (by decide) (by decide)
  have failed := settings_longName (w := { top := .empty }) rfl isName noNull
    (by decide +kernel) (by decide +kernel) .absent .absent []
  have told := reported _ _ _ _ failed
  simp [LoadError.failure?] at told

end Workspace

end RepoSurvey
