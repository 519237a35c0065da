import RepoSurvey.Console.Arguments
import RepoSurvey.Number.Whole
import RepoSurvey.Survey.Workspace

/-!
# What is asked for on a command line

A command line asks for the version, for help, for the survey of a project, for its
features or for one of its files. What it names has to be there; a line that asks for
nothing that can be done is an error of usage.
-/

namespace RepoSurvey.Console

/-- Asks for the survey of a project. -/
structure ScanRequest where
  path : String := "."
  /-- The word for the form in which the survey is shown. -/
  format : String := "rich"
  /-- The file that the survey is written to. -/
  output : Option String := none
  /-- Whether the texts of the files are part of the report. -/
  withContent : Bool := false
  depth : Option Int := none
  settings : Option String := none
  verbose : Bool := false
  quiet : Bool := false
deriving DecidableEq, Repr

/-- Asks for the features of a project. -/
structure FeaturesRequest where
  path : String := "."
  format : String := "rich"
  settings : Option String := none
  verbose : Bool := false
deriving DecidableEq, Repr

/-- Asks for what is known of a file. -/
structure FileRequest where
  path : String
  target : String
  settings : Option String := none
deriving DecidableEq, Repr

/-- What is asked for. -/
inductive Request where
  | help
  | version
  | scan (r : ScanRequest)
  | features (r : FeaturesRequest)
  | file (r : FileRequest)
deriving DecidableEq, Repr

/-- A path that has to name a directory, without what names nothing in it. -/
def directory (w : Workspace) (path : String) : Except UsageError String :=
  match w.find (Path.clean path) with
  | .ok (.directory _) => .ok (Path.clean path)
  | _ => .error (.noDirectory path)

/-- A path that has to name something else than a directory, without what names nothing in
it. -/
def settingsPath (w : Workspace) (path : String) : Except UsageError String :=
  match w.find (Path.clean path) with
  | .error _ | .ok (.directory _) => .error (.noFile path)
  | .ok _ => .ok (Path.clean path)

/-- A path that something is written to, without what names nothing in it. Nothing has to
be there, but it has to be a path. -/
def outputPath (path : String) : Except UsageError String :=
  if Path.holdsNull path then .error (.noPath path) else .ok (Path.clean path)

/-- A depth from its text. -/
def depthOf (word : String) : Except UsageError Int :=
  match Number.readWhole? word with
  | some n => if n < 0 then .error (.noDepth word) else .ok n
  | none => .error (.noDepth word)

/-- Refuses words that nothing is done with. -/
def noMore : List String → Except UsageError Unit
  | [] => .ok ()
  | word :: _ => .error (.extraArgument word)

/-- The file with settings that arguments name. -/
def Arguments.settings (w : Workspace) (a : Arguments) : Except UsageError (Option String) :=
  (a.value? .settings).mapM (settingsPath w)

/-- The request for a survey. -/
def ScanRequest.ofArguments (w : Workspace) (a : Arguments) :
    Except UsageError ScanRequest := do
  noMore (a.words.drop 1)
  return {
    path := ← directory w (a.words.headD ".")
    format := (a.value? .format).getD "rich"
    output := ← (a.value? .output).mapM outputPath
    withContent := a.has .includeContent
    depth := ← (a.value? .maxDepth).mapM depthOf
    settings := ← a.settings w
    verbose := a.has .verbose
    quiet := a.has .quiet }

/-- The request for features. -/
def FeaturesRequest.ofArguments (w : Workspace) (a : Arguments) :
    Except UsageError FeaturesRequest := do
  noMore (a.words.drop 1)
  return {
    path := ← directory w (a.words.headD ".")
    format := (a.value? .format).getD "rich"
    settings := ← a.settings w
    verbose := a.has .verbose }

/-- The request for a file. -/
def FileRequest.ofArguments (w : Workspace) (a : Arguments) :
    Except UsageError FileRequest := do
  noMore (a.words.drop 2)
  match a.words with
  | path :: target :: _ =>
    return { path := ← directory w path, target, settings := ← a.settings w }
  | [_] => throw (.missingArgument "TARGET")
  | [] => throw (.missingArgument "PATH")

namespace Request

/-- The request of a command with its options. To ask for help is to ask for nothing
else. -/
def ofCommand (accepted : List Flag) (read : Arguments → Except UsageError Request)
    (words : List String) : Except UsageError Request := do
  let a ← Arguments.ofWords (.help :: accepted) words
  if a.has .help then return help
  read a

/-- The options that a command line has of its own, before its command. -/
def lineOptions : List Flag := [.help, .version]

/-- The request of a word that is no command. Words behind two dashes may still be options
of the line, of which only the one for help is done anything with. -/
def ofNoCommand (word : String) (words : List String) : Except UsageError Request := do
  let line ← Arguments.read lineOptions false none words
  if line.has .help then return help
  throw (.unknownCommand word)

/-- The request of a command line. -/
def ofWords (w : Workspace) (words : List String) : Except UsageError Request := do
  let line ← Arguments.read lineOptions false none words
  if line.has .help then return help
  match line.words with
  | [] => return if line.has .version then version else help
  | "scan" :: rest =>
    ofCommand [.format, .output, .includeContent, .maxDepth, .settings, .verbose, .quiet]
      (fun a => (ScanRequest.ofArguments w a).map scan) rest
  | "features" :: rest =>
    ofCommand [.format, .settings, .verbose]
      (fun a => (FeaturesRequest.ofArguments w a).map features) rest
  | "file" :: rest =>
    ofCommand [.settings] (fun a => (FileRequest.ofArguments w a).map file) rest
  | word :: _ => ofNoCommand word line.words

end Request

end RepoSurvey.Console
