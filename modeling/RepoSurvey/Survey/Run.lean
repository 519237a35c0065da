import RepoSurvey.Discovery.Walk
import RepoSurvey.Role.Behavior
import RepoSurvey.Role.OfContent
import RepoSurvey.Role.OfPath
import RepoSurvey.Survey.Basic
import RepoSurvey.Survey.Workspace

/-!
# Taking a survey

A survey finds the files of a project, looks at each of them by itself, and then at what
links them. Only the root, the limits, the excluded globs and links that lead too far can
make it fail; a file that cannot be read is kept without a text.
-/

namespace RepoSurvey

/-- Why there is no survey. -/
inductive SurveyError where
  | load (e : LoadError)
  | settings (e : SettingsError)
  | root (e : RootError)
  | limit (e : Settings.LimitError)
  | walk (e : Discovery.WalkError)
deriving DecidableEq, Repr

namespace SurveyError

/-- The failure that is reported, if the error is one that is reported on purpose. -/
def failure? : SurveyError → Option Failure
  | load e => e.failure?
  | root e => e.failure?
  | _ => none

/-- The message of an error. -/
def message : SurveyError → String
  | load e => e.message
  | settings e => e.message
  | root e => e.message
  | limit e => e.message
  | walk e => e.message

end SurveyError

/-- A survey that is about to be taken: its settings are in order and its root is there. -/
structure Surveyor where
  root : Place
  settings : Settings
  /-- The size in octets above which a file is not read. -/
  limit : Int

namespace Surveyor

/-- A survey of the directory that a path leads to. -/
def of (w : Workspace) (path : String) (settings : Settings) : Except SurveyError Surveyor := do
  let root ← (w.root path).mapError .root
  let limit ← settings.recordedLimit.mapError .limit
  return { root, settings, limit }

/-- The kind and title of a file: those that its text tells if they are sure enough, and
else those that its path tells. -/
def judge (settings : Settings) (byPath : Role) (content : Option (List Char)) :
    FileType × String :=
  match content.bind Role.ofContent? with
  | some reading =>
    if settings.accepts reading.confidence then (reading.type, reading.title)
    else (byPath.type, byPath.title)
  | none => (byPath.type, byPath.title)

/-- A file looked at by itself, given its path, its text and the paths that are known. -/
def lookAt (settings : Settings) (known : String → Bool) (path : String)
    (content : Option (List Char)) : ProjectFile :=
  let byPath := Role.ofPath path
  let (type, title) := judge settings byPath content
  let analysis := Analysis.of known path content
  { path
    content := content.map String.ofList
    type, title
    category := byPath.category
    behavior := Role.behavior type (content.getD []) analysis.routes analysis.apiCalls
    analysis }

/-- The text of a file of the project. -/
def contentOf (s : Surveyor) (top : Node) (path : String) : Option (List Char) :=
  Tree.text? top (some s.limit) [] (Path.join s.root.text path)

/-- The survey of a tree. -/
def run (s : Surveyor) (top : Node) : Except SurveyError Survey := do
  let globs := s.settings.excludePatterns
  let paths ←
    (Discovery.files top s.root s.root.text globs s.settings.followsLinks).mapError .walk
  let files := paths.map fun path =>
    lookAt s.settings paths.contains path (s.contentOf top path)
  return Survey.ofFiles files s.settings.hopLimit

end Surveyor

namespace Workspace

/-- The survey of the directory that a path leads to, under given settings. -/
def survey (w : Workspace) (path : String) (settings : Settings) : Except SurveyError Survey := do
  (← Surveyor.of w path settings).run w.top

/-- The survey of the directory that a path leads to, under the settings of all sources. -/
def surveyWith (w : Workspace) (path : String) (named : Option String) (overrides : Fields) :
    Except SurveyError Survey := do
  w.survey path (← (w.settings named overrides).mapError .load)

end Workspace

end RepoSurvey
