import RepoSurvey.Project.File

/-!
# Relationships between files

A relationship runs from a file to one that it imports. Every import is a relationship of
kind `imports`; where the kinds of the two files form a step between layers of a program,
there is one of kind `uses` beside it. `Relationship.build` lists them file by file, the
imports of a file before its uses, each once.
-/

namespace RepoSurvey

/-- What kind of relationship it is. -/
inductive EdgeKind where
  | imports | uses
  /-- A kind that this library has no word for. -/
  | other (label : String)
deriving DecidableEq, Repr

namespace EdgeKind

/-- The label under which a kind is written. -/
def label : EdgeKind → String
  | imports => "imports"
  | uses => "uses"
  | other label => label

/-- The kind that is written under a label. -/
def ofLabel (s : String) : EdgeKind :=
  if s = "imports" then imports else if s = "uses" then uses else other s

end EdgeKind

/-- A relationship between two files. -/
structure Relationship where
  source : String
  target : String
  kind : EdgeKind
deriving DecidableEq, Repr

/-- The kinds of file that one of a given kind may use: the steps between the layers of a
program. -/
def FileType.usable : FileType → List FileType
  | .route => [.controller, .service, .middleware]
  | .controller => [.service, .model, .utility]
  | .service => [.model, .utility]
  | .middleware => [.service, .utility]
  | .page => [.component, .hook, .service, .utility]
  | .component => [.component, .hook, .utility]
  | _ => []

/-- The file of a path in a list of files; of several the last. -/
def ProjectFile.find? (files : List ProjectFile) (path : String) : Option ProjectFile :=
  files.reverse.find? fun f => f.path == path

namespace Relationship

/-- Whether a file of a kind may use the file of a path. -/
def mayUse (files : List ProjectFile) (type : FileType) (target : String) : Bool :=
  match ProjectFile.find? files target with
  | some f => type.usable.contains f.type
  | none => false

/-- The relationships that start at a file: its imports, then its uses. -/
def ofFile (files : List ProjectFile) (f : ProjectFile) : List Relationship :=
  (f.analysis.targets.map fun t => ⟨f.path, t, .imports⟩) ++
    ((f.analysis.targets.filter (mayUse files f.type)).map fun t => ⟨f.path, t, .uses⟩)

/-- The relationships between files. -/
def build (files : List ProjectFile) : List Relationship :=
  (files.flatMap (ofFile files)).eraseDups

/-- The relationships of a kind. -/
def ofKind (kind : EdgeKind) (edges : List Relationship) : List Relationship :=
  edges.filter (·.kind = kind)

/-- Where the relationships of a file lead, and their kinds. -/
def dependencies (edges : List Relationship) (path : String) : List (String × EdgeKind) :=
  (edges.filter (·.source = Path.slashed path)).map fun e => (e.target, e.kind)

/-- Where the relationships that lead to a file come from, and their kinds. -/
def dependents (edges : List Relationship) (path : String) : List (String × EdgeKind) :=
  (edges.filter (·.target = Path.slashed path)).map fun e => (e.source, e.kind)

end Relationship

/-- The size of a list of relationships. -/
structure RelationshipCounts where
  total : Nat
  imports : Nat
  uses : Nat
  /-- The number of files at either end of a relationship. -/
  files : Nat
deriving DecidableEq, Repr

/-- The size of a list of relationships. -/
def RelationshipCounts.of (edges : List Relationship) : RelationshipCounts :=
  { total := edges.length
    imports := edges.countP (·.kind = .imports)
    uses := edges.countP (·.kind = .uses)
    files := (edges.flatMap fun e => [e.source, e.target]).eraseDups.length }

/-- The files of a list that import a file, in the order of the list. -/
def importersOf (files : List ProjectFile) (path : String) : List String :=
  ((files.filter fun f => f.analysis.targets.contains path).map (·.path)).eraseDups

/-- The files of a list, each with the files that import it. -/
def linkImporters (files : List ProjectFile) : List ProjectFile :=
  files.map fun f =>
    { f with analysis := { f.analysis with importedBy := importersOf files f.path } }

end RepoSurvey
