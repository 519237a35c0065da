import RepoSurvey.Settings.Value

/-!
# Failures that are reported

What a survey reports on purpose: a message with the values that it is about. A failure is
of one of a few kinds, each a special case of another or of the general one.
-/

namespace RepoSurvey

/-- The kinds of failures. -/
inductive FailureKind where
  | general | analysis | fileAccess | configuration | invalidPath | invalidSetting
deriving DecidableEq, Repr

namespace FailureKind

/-- A kind with the kinds that it is a special case of, the general one last. -/
def lineage : FailureKind → List FailureKind
  | general => [general]
  | analysis => [analysis, general]
  | fileAccess => [fileAccess, analysis, general]
  | configuration => [configuration, general]
  | invalidPath => [invalidPath, configuration, general]
  | invalidSetting => [invalidSetting, configuration, general]

end FailureKind

/-- A failure: its message, and the values that it is about under their names. -/
structure Failure where
  kind : FailureKind := .general
  message : String
  details : Fields := []

namespace Failure

/-- The whole text of a failure: the message, and the details in parentheses. -/
def text (f : Failure) : String :=
  if f.details.isEmpty then f.message
  else
    f.message ++ " (" ++
      ", ".intercalate (f.details.map fun d => d.1 ++ "=" ++ d.2.shown) ++ ")"

/-- A file cannot be read. -/
def fileAccess (path reason : SettingValue) : Failure :=
  { kind := .fileAccess
    message := "Cannot access file: " ++ path.shown
    details := [("filepath", .text path.shown), ("reason", reason)] }

/-- A path is no place for a survey. -/
def invalidPath (path reason : SettingValue) : Failure :=
  { kind := .invalidPath
    message := "Invalid path: " ++ path.shown
    details := [("path", .text path.shown), ("reason", reason)] }

/-- A setting has a value that cannot be read. -/
def invalidSetting (key value reason : SettingValue) : Failure :=
  { kind := .invalidSetting
    message := "Invalid configuration for " ++ key.shown ++ ": " ++ value.shown
    details := [("key", key), ("value", .text value.shown), ("reason", reason)] }

end Failure

end RepoSurvey
