import RepoSurvey.Endpoint
import RepoSurvey.Export.Extract
import RepoSurvey.Import.Merge
import RepoSurvey.Import.Names
import RepoSurvey.Outline
import RepoSurvey.Resolve.Specifier
import RepoSurvey.Role.Basic

/-!
# Files of a project

What a survey keeps of a file: its path, text and role, and the `Analysis` of its text.
`Analysis.of` runs every reader of the library over a text; a file without text has the
empty analysis.
-/

namespace RepoSurvey

/-- The import of one module by a file. -/
structure ImportRecord where
  /-- The file that the specifier means, or the specifier itself if it means none. -/
  path : String
  specifier : String
  system : ModuleSystem
  /-- The names that are bound, as they are shown. -/
  imported : List String
  target : Option String := none
  typeOnly : Bool := false
deriving DecidableEq, Repr

/-- What the text of a file tells beside its kind. -/
structure Analysis where
  imports : List ImportRecord := []
  /-- The files of the project that are imported, each once. -/
  targets : List String := []
  exports : List Export := []
  routes : List Route := []
  apiCalls : List ApiCall := []
  components : List String := []
  functions : List String := []
  /-- The files of the project that import this one. -/
  importedBy : List String := []
deriving DecidableEq, Repr

/-- A file of a project. -/
structure ProjectFile where
  path : String
  /-- The text; none if it could not be read. -/
  content : Option String := none
  type : FileType
  title : String := ""
  category : Category
  behavior : Behavior := .logic
  analysis : Analysis := {}
deriving DecidableEq, Repr

namespace ImportRecord

/-- The record of a statement in a file. A statement that binds no name is shown under a
name derived from its specifier. -/
def of (known : String → Bool) (importer : String) (i : Import) : ImportRecord :=
  let target := Resolve.resolve? known i.specifier importer
  let names := i.boundNames
  { path := target.getD i.specifier
    specifier := i.specifier
    system := i.system
    imported := if names.isEmpty then [moduleName i.specifier] else names
    target
    typeOnly := i.typeOnly }

end ImportRecord

namespace Analysis

/-- The imports of a text that belongs to a file. -/
def importsOf (known : String → Bool) (importer : String) (content : List Char) :
    List ImportRecord :=
  (Import.merge (Import.extract content)).map (.of known importer)

/-- The analysis of a file's text. -/
def of (known : String → Bool) (path : String) (content : Option (List Char)) : Analysis :=
  match content with
  | none => {}
  | some [] => {}
  | some text =>
    let imports := importsOf known path text
    { imports
      targets := (imports.filterMap (·.target)).eraseDups
      exports := Export.extract text
      routes := Outline.routes text
      apiCalls := Outline.apiCalls text
      components := Outline.components text
      functions := Outline.functions text }

end Analysis

end RepoSurvey
