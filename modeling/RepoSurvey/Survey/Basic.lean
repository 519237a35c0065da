import RepoSurvey.Feature.Detect
import RepoSurvey.Framework.Detect

/-!
# Surveys

What is known of a project once all of its files have been looked at. A survey holds the
files with their analyses, the frameworks, the relationships and the features; everything
else that is reported of it is counted from these.
-/

namespace RepoSurvey

/-- What is known of a project. -/
structure Survey where
  files : List ProjectFile
  frameworks : Frameworks
  relationships : List Relationship
  features : List Feature

namespace Survey

/-- The survey of files, all of them read and analysed one by one: what links them is found
here. -/
def ofFiles (files : List ProjectFile) (limit : Feature.HopLimit) : Survey :=
  let files := linkImporters files
  let relationships := Relationship.build files
  { files
    frameworks := Frameworks.detect files
    relationships
    features := Feature.detect files relationships limit }

/-- The file of a path, which may be written with backslashes. -/
def file? (s : Survey) (path : String) : Option ProjectFile :=
  s.files.find? fun f => f.path == Path.slashed path

/-- The share of the files that belongs to some feature. -/
def coverage (s : Survey) : Binary64 := Feature.coverage s.features s.files.length

/-- The keywords of the features that a file belongs to. -/
def membership (s : Survey) (path : String) : List String :=
  (s.features.filter fun f => f.files.contains path).map (·.keyword)

end Survey

end RepoSurvey
