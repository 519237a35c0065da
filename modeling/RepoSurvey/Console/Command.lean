import RepoSurvey.Console.Page.Explanation
import RepoSurvey.Console.Page.Features
import RepoSurvey.Console.Request
import RepoSurvey.Json.Writer
import RepoSurvey.Survey.Report
import RepoSurvey.Survey.Run

/-!
# Running a command

A command prints pages, ends with a status and may write a file. A failure is reported in a
line. Any other error stops the command; a survey catches it and reports it in a line as
well, and from the other commands it escapes. Which printer prints the pages is left open.
-/

namespace RepoSurvey.Console

/-- What stops a command. -/
inductive Fault where
  | survey (e : SurveyError)
  | markup (e : PrintError)
  /-- The output cannot be written. -/
  | output (why : AccessError) (path : String)
deriving DecidableEq, Repr

/-- The message of a fault. -/
def Fault.message : Fault → String
  | survey e => e.message
  | markup e => e.message
  | output why path => why.message path

/-- What a command does. -/
structure Outcome where
  printed : List Printed := []
  /-- Zero if the command did what was asked for. -/
  status : Nat := 0
  /-- The fault that stopped the command. -/
  fault : Option Fault := none
  /-- The path and the text of the file that was written. -/
  written : Option (String × String) := none
  workspace : Workspace

namespace Outcome

/-- The texts that have been printed. -/
def texts (o : Outcome) : List (List Char) := o.printed.flatMap (·.texts)

/-- The outcome with a page printed behind what has been printed. -/
def print (p : Printer) (o : Outcome) (page : Page) : Outcome :=
  match Page.print p page with
  | (printed, none) => { o with printed := o.printed ++ printed }
  | (printed, some e) =>
    { o with printed := o.printed ++ printed, status := 1, fault := some (.markup e) }

/-- The outcome with a failed status. -/
def failed (o : Outcome) : Outcome := { o with status := 1 }

/-- The outcome of a fault before anything is printed. -/
def stopped (w : Workspace) (fault : Fault) : Outcome :=
  { status := 1, fault := some fault, workspace := w }

/-- The outcome with its fault reported in a line. -/
def caught (p : Printer) (o : Outcome) : Outcome :=
  match o.fault with
  | none => o
  | some fault =>
    { o with fault := none }.print p
      [.marked ("[red]Unexpected error:[/red] " ++ fault.message)]

/-- The outcome of a page. -/
def ofPage (p : Printer) (w : Workspace) (page : Page) : Outcome :=
  print p { workspace := w } page

/-- The outcome of an error that is reported in a line. -/
def refused (p : Printer) (w : Workspace) (text : String) : Outcome :=
  (ofPage p w [.marked ("[red]Error:[/red] " ++ text)]).failed

end Outcome

/-- The indentation of reports that are printed. -/
def reportStyle : JsonValue.Layout := .indented 2

/-! ## The survey of a project -/

/-- The words for the forms in which a survey is shown. -/
def formats : List String := ["rich", "json"]

/-- What a request says beside the other sources of settings. -/
def ScanRequest.overrides (r : ScanRequest) : Fields :=
  (if r.verbose then [("verbose", .truth true)] else []) ++
  (if r.quiet then [("quiet", .truth true)] else []) ++
  match r.depth with
  | some n => [(SettingName.depth.label, .number (.integer n))]
  | none => []

/-- The outcome of a survey that was taken. -/
def ScanRequest.show (p : Printer) (r : ScanRequest) (w : Workspace) (settings : Settings)
    (s : Survey) : Outcome :=
  let report := (s.report r.withContent).render reportStyle
  match r.output with
  | some path =>
    match w.write path report.toUTF8.toList with
    | .error why => .stopped w (.output why path)
    | .ok w =>
      { Outcome.ofPage p w [.marked ("Wrote scan of [green]" ++ toString s.files.length ++
          "[/green] files to " ++ path)] with
        written := some (path, report) }
  | none =>
    if r.format = "json" then .ofPage p w [.verbatim report]
    else .ofPage p w (Overview.page s (settings.verbosity = .verbose))

/-- Takes and shows the survey of a project. -/
def ScanRequest.run (p : Printer) (r : ScanRequest) (w : Workspace) : Outcome :=
  if !formats.contains r.format then
    .refused p w ("Unknown format '" ++ r.format ++ "' (expected rich or json)")
  else
    let taken := do
      let settings ← (w.settings r.settings r.overrides).mapError SurveyError.load
      return (settings, ← w.survey r.path settings)
    match taken with
    | .ok (settings, s) => (r.show p w settings s).caught p
    | .error e =>
      match e.failure? with
      | some f => .refused p w f.text
      | none => (Outcome.stopped w (.survey e)).caught p

/-! ## Features and files -/

/-- Goes on with the survey of a project; what is no failure escapes. -/
def withSurvey (p : Printer) (w : Workspace) (path : String) (settings : Option String)
    (overrides : Fields) (next : Survey → Outcome) : Outcome :=
  match w.surveyWith path settings overrides with
  | .ok s => next s
  | .error e =>
    match e.failure? with
    | some f => .refused p w f.text
    | none => .stopped w (.survey e)

/-- Shows the features of a project. -/
def FeaturesRequest.run (p : Printer) (r : FeaturesRequest) (w : Workspace) : Outcome :=
  withSurvey p w r.path r.settings (if r.verbose then [("verbose", .truth true)] else [])
    fun s =>
      if r.format = "json" then
        .ofPage p w [.verbatim (s.featureReports.render reportStyle)]
      else .ofPage p w (FeatureTables.page s)

/-- Shows what is known of a file. -/
def FileRequest.run (p : Printer) (r : FileRequest) (w : Workspace) : Outcome :=
  withSurvey p w r.path r.settings [] fun s =>
    match s.file? r.target with
    | none => .refused p w (r.target ++ " is not part of the scan")
    | some f => .ofPage p w (Explanation.page s f)

/-! ## All commands -/

/-- The version of the program. -/
def version : String := "0.1.0"

/-- What the program can be asked for. -/
def helpPage : Page := [
  .verbatim "Usage: codeatlas [OPTIONS] COMMAND [ARGS]...",
  .blank,
  .verbatim "Map a JavaScript/TypeScript repository: file roles, import graph,",
  .verbatim "frameworks and features.",
  .blank,
  .verbatim "Options:",
  .verbatim "  --version   Show version and exit",
  .verbatim "  --help      Show this message and exit",
  .blank,
  .verbatim "Commands:",
  .verbatim "  scan [PATH]        Scan a project and report its structure",
  .verbatim "  features [PATH]    List the features of a project with their hubs and files",
  .verbatim "  file PATH TARGET   Show why a file was classified the way it was"]

/-- Does what is asked for. -/
def Request.run (p : Printer) (w : Workspace) : Request → Outcome
  | help => .ofPage p w helpPage
  | version =>
    .ofPage p w [.marked ("[bold cyan]codeatlas[/bold cyan] version [green]" ++
      Console.version ++ "[/green]")]
  | scan r => r.run p w
  | features r => r.run p w
  | file r => r.run p w

/-- The status of an error of usage. -/
def usageStatus : Nat := 2

end RepoSurvey.Console
