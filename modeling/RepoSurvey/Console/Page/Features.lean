import RepoSurvey.Console.Page.Overview

/-!
# The features of a survey

The page that shows every feature as a table: its hubs, its files bucket by bucket, the
infrastructure that it shares and the routes that it serves.
-/

namespace RepoSurvey.Console.FeatureTables

/-- A row for a list, which has a line for each entry. -/
def listRow (name : String) (entries : List String) : List String :=
  [name, "\n".intercalate entries]

/-- A row for a list, if there is anything in it. -/
def rowOf (name : String) (entries : List String) : List (List String) :=
  if entries.isEmpty then [] else [listRow name entries]

/-- The table of a feature. -/
def table (f : Feature) : Table :=
  { title := f.name ++ " (" ++ toString f.files.length ++ " files)"
    columns := [⟨"Bucket", false⟩, ⟨"Files", false⟩]
    rows :=
      (f.hubPaths.map fun entry => listRow ("hubs: " ++ entry.1.label) entry.2) ++
      (f.buckets.flatMap fun entry => rowOf entry.1.label entry.2) ++
      rowOf "shared deps" f.shared ++
      rowOf "routes" (f.routes.map fun r => r.method ++ " " ++ r.path) }

/-- The tables of all features. -/
def page (s : Survey) : Page :=
  if s.features.isEmpty then [.marked "[yellow]No features detected[/yellow]"]
  else
    ((Overview.sortedFeatures s).flatMap fun f => [.table (table f), .blank]) ++
      [.marked ("Coverage: [green]" ++ s.coverage.percentText ++ "[/green] of files")]

end RepoSurvey.Console.FeatureTables
