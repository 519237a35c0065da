import RepoSurvey.Settings.Variable
import RepoSurvey.Tree.Resolve

/-!
# Where settings come from

Settings are merged from several sources, each of which wins over those before it: the
defaults, the file of the user, the file of the directory, a file that is named, the
environment, and what is said when a survey is started. A file states its settings in a
table of its own or at its top level.
-/

namespace RepoSurvey

/-- What is found where a settings file may be. -/
inductive SettingsFile where
  | absent
  /-- It cannot even be told whether something is there. -/
  | unreachable (why : AccessError)
  /-- Something is there, but no document can be read from it. -/
  | invalid
  | document (fields : Fields)

namespace SettingsFile

/-- The table of a document that holds settings. -/
def tableName : String := "codeatlas"

/-- The fields of a document that are settings. -/
def settings (document : Fields) : Fields :=
  match document.lookup tableName with
  | some (.table fields) => fields
  | _ => document

end SettingsFile

/-- The files that settings are read from. -/
inductive FileRole where
  | global | project | named
deriving DecidableEq, Repr

/-- The word for a file. -/
def FileRole.label : FileRole → String
  | global => "global config"
  | project => "project config"
  | named => "config file"

/-- Why there are no settings. -/
inductive LoadError where
  | invalidFile (role : FileRole) (path : String)
  | missingFile (path : String)
  | unreachable (why : AccessError) (path : String)
  | invalidVariable (e : InvalidVariable)
  | invalidSettings (e : SettingsError)
deriving DecidableEq, Repr

namespace LoadError

/-- The failure that is reported, if the error is one that is reported on purpose. -/
def failure? : LoadError → Option Failure
  | invalidFile role path =>
    some { message := "Invalid " ++ role.label ++ " '" ++ path ++ "'" }
  | missingFile path => some { message := "Config file not found: " ++ path }
  | unreachable _ _ => none
  | invalidVariable e =>
    some (.invalidSetting (.text e.name) (.text e.text) (.text e.why.message))
  | invalidSettings e => some { message := "Invalid configuration: " ++ e.message }

/-- The message of an error. -/
def message : LoadError → String
  | unreachable why path => why.message path
  | e => (e.failure?.map (·.text)).getD ""

end LoadError

/-- The sources of settings beside the defaults. Each file has the path under which it is
reported. -/
structure Sources where
  global : String × SettingsFile
  project : String × SettingsFile
  named : Option (String × SettingsFile) := none
  environment : Variables := []
  overrides : Fields := []

namespace Sources

/-- The fields of a file that may be absent. -/
def optionalFields (role : FileRole) (file : String × SettingsFile) : Except LoadError Fields :=
  match file.2 with
  | .absent => .ok []
  | .unreachable why => .error (.unreachable why file.1)
  | .invalid => .error (.invalidFile role file.1)
  | .document fields => .ok (SettingsFile.settings fields)

/-- The fields of the file that is named, which has to be there. -/
def namedFields (file : Option (String × SettingsFile)) : Except LoadError Fields :=
  match file with
  | none => .ok []
  | some (path, .absent) => .error (.missingFile path)
  | some file => optionalFields .named file

/-- Fields with a switch replaced by the verbosity that it stands for, if it is on. -/
def applySwitch (name : String) (v : Verbosity) (fields : Fields) : Fields :=
  match fields.lookup name with
  | none => fields
  | some value =>
    let fields :=
      if value.counts then fields.insert SettingName.verbosity.label (.text v.label) else fields
    fields.filter (·.1 != name)

/-- What is said when a survey is started, without its switches: silence wins. -/
def overrideFields (overrides : Fields) : Fields :=
  applySwitch "quiet" .quiet (applySwitch "verbose" .verbose overrides)

/-- The fields of all sources, merged. -/
def fields (s : Sources) : Except LoadError Fields := do
  let global ← optionalFields .global s.global
  let project ← optionalFields .project s.project
  let named ← namedFields s.named
  let environment ← s.environment.fields.mapError .invalidVariable
  return (((global.merge project).merge named).merge environment).merge
    (overrideFields s.overrides)

/-- The settings of all sources. -/
def settings (s : Sources) : Except LoadError Settings := do
  (Settings.ofFields (← s.fields)).mapError .invalidSettings

end Sources

end RepoSurvey
