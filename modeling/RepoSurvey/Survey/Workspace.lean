import RepoSurvey.Path.Parts
import RepoSurvey.Settings.Source
import RepoSurvey.Toml.Document
import RepoSurvey.Tree.Read

/-!
# Workspaces

Everything outside itself that a survey looks at: a tree of files with the directory that
paths start from and the home of the user, and the environment.
-/

namespace RepoSurvey

/-- A place as an absolute path. -/
def Place.text (place : Place) : String := "/" ++ "/".intercalate place

/-- What a survey looks at. -/
structure Workspace where
  top : Node
  /-- The directory that paths start from. -/
  here : Place := []
  home : Place := []
  environment : Variables := []

/-- Why a path is no root of a survey. -/
inductive RootError where
  /-- The path, and the place at which its links lead in a circle. -/
  | circle (path : String) (place : Place)
  | missing (place : Place)
  | noDirectory (place : Place)
  /-- It cannot even be told whether something is there. -/
  | unreachable (why : AccessError) (place : Place)
  /-- The path holds a null character. -/
  | nullCharacter
deriving DecidableEq, Repr

namespace RootError

/-- The failure that is reported, if the error is one. -/
def failure? : RootError → Option Failure
  | circle path place =>
    some (.invalidPath (.text path)
      (.text ("Cannot resolve path: Symlink loop from " ++
        String.ofList (Text.quoted place.text.toList))))
  | missing place => some (.invalidPath (.text place.text) (.text "Directory does not exist"))
  | noDirectory place =>
    some (.invalidPath (.text place.text) (.text "Path is not a directory"))
  | unreachable _ _ | nullCharacter => none

/-- The message of an error. -/
def message : RootError → String
  | unreachable why place => why.message place.text
  | nullCharacter => Path.nullMessage
  | e => (e.failure?.map (·.text)).getD ""

end RootError

namespace Workspace

/-- The place that a path starts from. -/
def start (w : Workspace) (path : String) : Place :=
  if Path.startsWith path "/" then [] else w.here

/-- The node that a path leads to. -/
def find (w : Workspace) (path : String) : Except AccessError Node :=
  Tree.findPath w.top (w.start path) path

/-- The place of the directory that a path leads to. What is too long is the true path, not
the one that is given. -/
def root (w : Workspace) (path : String) : Except RootError Place :=
  let path := Path.clean path
  let place := Tree.truePlace w.top (w.start path) (Tree.steps path)
  if Path.holdsNull path then .error .nullCharacter
  else if Tree.isTooLong place.text then .error (.unreachable .nameTooLong place)
  else
    match Tree.find w.top [] place with
    | .ok n => if n.isDirectory then .ok place else .error (.noDirectory place)
    | .error .tooManyLinks => .error (.circle path place)
    | .error .nameTooLong => .error (.unreachable .nameTooLong place)
    | .error _ => .error (.missing place)

/-! ## Settings -/

/-- What is found where a path leads to. -/
def settingsFile (w : Workspace) (path : String) : SettingsFile :=
  match w.find path with
  | .error .nameTooLong =>
    if Path.holdsNull path then .absent else .unreachable .nameTooLong
  | .error _ => .absent
  | .ok (.file octets) =>
    match (Text.decodeUtf8 .refuse octets).toOption.bind Toml.read? with
    | some document => .document document
    | none => .invalid
  | .ok _ => .invalid

/-- The name of the settings file of a user. -/
def globalName : String := ".codeatlas.toml"

/-- The name of the settings file of a directory. -/
def projectName : String := "codeatlas.toml"

/-- The path of the settings file of the user, from the top. -/
def globalPath (w : Workspace) : String := Place.text (w.home ++ [globalName])

/-- The path of the settings file of the directory that paths start from, from the top. -/
def projectPath (w : Workspace) : String := Place.text (w.here ++ [projectName])

/-- The sources of settings, with a file that may be named and what is said besides. -/
def sources (w : Workspace) (named : Option String) (overrides : Fields) : Sources :=
  let file (path : String) : String × SettingsFile := (path, w.settingsFile path)
  { global := file w.globalPath
    project := file w.projectPath
    named := named.map fun path => file (Path.clean path)
    environment := w.environment
    overrides }

/-- The settings of a survey. -/
def settings (w : Workspace) (named : Option String) (overrides : Fields) :
    Except LoadError Settings :=
  (w.sources named overrides).settings

/-! ## Changes -/

/-- The workspace after a file was written, which may be new. -/
def write (w : Workspace) (path : String) (octets : List UInt8) :
    Except AccessError Workspace := do
  let place ← Tree.follow w.top .create (w.start path) (← Tree.stepsWithin path)
  match w.top.at? place with
  | some (.directory _) => throw .isADirectory
  | _ => return { w with top := w.top.put place (.file octets) }

/-- The workspace after a file was removed; a link is removed itself. -/
def remove (w : Workspace) (path : String) : Except AccessError Workspace := do
  let place ← Tree.follow w.top .keep (w.start path) (← Tree.stepsWithin path)
  match w.top.at? place with
  | some (.directory _) => throw .isADirectory
  | _ => return { w with top := w.top.remove place }

end Workspace

end RepoSurvey
