import RepoSurvey.Console.Page
import RepoSurvey.Number.Shortest
import RepoSurvey.Survey.Basic

/-!
# The overview of a survey

The page that shows a survey as a whole: its frameworks, the types of its files, how they
are related, and its features with the share of the files that they cover.
-/

namespace RepoSurvey.Console.Overview

/-- The features of a survey, sorted by their keywords. -/
def sortedFeatures (s : Survey) : List Feature :=
  s.features.mergeSort fun a b => decide (a.keyword ≤ b.keyword)

/-- The frameworks, area by area. -/
def frameworkTable (f : Frameworks) : Table :=
  { title := "Frameworks"
    columns := [⟨"Category", false⟩, ⟨"Detected", false⟩]
    rows := FrameworkArea.all.map fun area =>
      let names := f.get area
      [area.label, if names.isEmpty then "[dim]-[/dim]" else ", ".intercalate names] }

/-- How many files are of each type: the frequent ones first, and of two as frequent the one
met first. -/
def typeCounts (files : List ProjectFile) : List (FileType × Nat) :=
  let types := files.map (·.type)
  (types.eraseDups.map fun t => (t, types.count t)).mergeSort fun a b => decide (b.2 ≤ a.2)

/-- The types of files. -/
def typeTable (files : List ProjectFile) : Table :=
  { title := "File Types"
    columns := [⟨"Type", false⟩, ⟨"Files", true⟩]
    rows := (typeCounts files).map fun entry => [entry.1.label, toString entry.2] }

/-- How the files are related. -/
def relationshipText (c : RelationshipCounts) : String :=
  "  Relationships: [green]" ++ toString c.total ++ "[/green] (" ++ toString c.imports ++
    " imports, " ++ toString c.uses ++ " uses) across " ++ toString c.files ++ " files"

/-- The features with their sizes. -/
def featureTable (features : List Feature) : Table :=
  { title := "Features"
    columns := [⟨"Keyword", false⟩, ⟨"Name", false⟩, ⟨"Files", true⟩, ⟨"Routes", true⟩,
      ⟨"Shared deps", true⟩]
    rows := features.map fun f =>
      [f.keyword, f.name, toString f.files.length, toString f.routes.length,
       toString f.shared.length] }

/-- The features, and what they cover. -/
def featurePart (s : Survey) : Page :=
  if s.features.isEmpty then [.marked "  [yellow]No features detected[/yellow]"]
  else
    [.table (featureTable (sortedFeatures s)),
     .marked ("  Feature coverage: [green]" ++ s.coverage.percentText ++ "[/green]")]

/-- The files of each feature. -/
def fileLists (s : Survey) : Page :=
  (sortedFeatures s).flatMap fun f =>
    .marked ("[bold]" ++ f.keyword ++ "[/bold]") ::
      f.files.map fun path => .marked ("    " ++ path)

/-- The overview of a survey; a verbose one lists the files of each feature. -/
def page (s : Survey) (verbose : Bool) : Page :=
  [.blank,
   .marked "[bold cyan]CODEATLAS - Project Scan[/bold cyan]",
   .blank,
   .marked ("  [green]" ++ toString s.files.length ++ "[/green] files, project type [bold]" ++
     s.frameworks.projectType.label ++ "[/bold]"),
   .blank,
   .table (frameworkTable s.frameworks),
   .blank,
   .table (typeTable s.files),
   .blank,
   .marked (relationshipText (.of s.relationships)),
   .blank] ++
  featurePart s ++
  (if verbose && !s.features.isEmpty then .blank :: fileLists s else [])

end RepoSurvey.Console.Overview
