import RepoSurvey.Console.Page
import RepoSurvey.Number.Shortest
import RepoSurvey.Role.OfContent
import RepoSurvey.Role.OfPath
import RepoSurvey.Survey.Basic
import RepoSurvey.Text.Blank

/-!
# The explanation of a file

The page that shows what a survey knows of one file: what it is and by which sign, and what
links it to other files. Parts for which there is nothing are left out.
-/

namespace RepoSurvey.Console.Explanation

/-- The color of a side of a project. -/
def color : Category → String
  | .backend => "magenta"
  | .frontend => "cyan"
  | .shared => "blue"
  | .infrastructure => "yellow"
  | .test => "green"
  | .documentation => "dim"
  | _ => "white"

/-- A side of a project in its color. -/
def coloredCategory (c : Category) : String :=
  "[" ++ color c ++ "]" ++ c.label ++ "[/" ++ color c ++ "]"

/-- What a file is. -/
def roleLines (f : ProjectFile) : List String :=
  let byPath := Role.ofPath f.path
  ["[bold]" ++ f.path ++ "[/bold]",
   "  type:      [cyan]" ++ f.type.label ++ "[/cyan] (" ++ f.title ++ ")",
   "  category:  " ++ coloredCategory f.category,
   "  behavior:  " ++ f.behavior.label,
   "  by path:   " ++ byPath.type.label ++ " (" ++ byPath.title ++ ")",
   match Role.ofContent? (f.content.getD "").toList with
   | some r =>
     "  by content: " ++ r.type.label ++ " (confidence " ++ r.confidence.fixedText 2 ++ ")"
   | none => "  by content: [dim]no signal[/dim]"] ++
  if f.content.isNone then ["  [yellow]content not read (unreadable or too large)[/yellow]"]
  else []

/-- An import with the file that it leads to. -/
def importLine (i : ImportRecord) : String :=
  let target :=
    match i.target with
    | some path => "[green]" ++ path ++ "[/green]"
    | none => "[dim]external[/dim]"
  "  " ++ i.specifier ++ " -> " ++ target ++ ": " ++ ", ".intercalate i.imported ++
    if i.typeOnly then " [dim](type)[/dim]" else ""

/-- An export. -/
def exportLine (e : Export) : String :=
  "  " ++ e.name ++ " (" ++ e.kind.label ++ ", " ++ e.form.label ++ ")"

/-- A call of an interface. -/
def callLine (c : ApiCall) : String :=
  String.ofList (Text.dropEnd Text.isBlank
    ("  " ++ c.caller.label ++ " " ++ c.method.getD "" ++ " " ++ c.url).toList)

/-- A part of the page with a title; nothing if it has no lines. -/
def part (title : String) (lines : List String) : Page :=
  if lines.isEmpty then []
  else .blank :: .marked ("[bold]" ++ title ++ "[/bold]") :: lines.map .marked

/-- The features that a file belongs to, sorted by their keywords. -/
def memberships (s : Survey) (f : ProjectFile) : Page :=
  let keywords := (s.membership f.path).mergeSort fun a b => decide (a ≤ b)
  if keywords.isEmpty then []
  else [.blank, .marked ("Features: " ++ ", ".intercalate keywords)]

/-- The explanation of a file of a survey. -/
def page (s : Survey) (f : ProjectFile) : Page :=
  .blank :: (roleLines f).map .marked ++
  part "Imports" (f.analysis.imports.map importLine) ++
  part "Exports" (f.analysis.exports.map exportLine) ++
  part "Routes" (f.analysis.routes.map fun r => "  " ++ r.method ++ " " ++ r.path) ++
  part "API calls" (f.analysis.apiCalls.map callLine) ++
  part "Imported by" (f.analysis.importedBy.map ("  " ++ ·)) ++
  memberships s f

end RepoSurvey.Console.Explanation
