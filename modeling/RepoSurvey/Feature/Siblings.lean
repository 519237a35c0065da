import RepoSurvey.Feature.Hub

/-!
# Siblings of components

A component is often a directory of files. Where one of them belongs to a feature, the
others do too, unless the directory is that of the common parts of the user interface.
-/

namespace RepoSurvey.Feature

open Pattern

/-- The deepest directory of a component that a path lies below. -/
def componentDirectory : Pattern :=
  part 1 (optional (many1 (charNotOf "\n") ++ "/") ++ "components/" ++ many1 (charNotOf "/")) ++
    "/"

/-- A directory of the common parts of the user interface. -/
def commonDirectory : Pattern :=
  either (anchor .textStart) "/" ++ anyCase "components/ui" ++ anchor .textEnd

/-- The directory whose files go with a file. -/
def siblingDirectory? (path : String) : Option String :=
  match componentDirectory.matchStart? path.toList with
  | some m => if commonDirectory.occursIn (m.part 1) then none else some (m.partString 1)
  | none => none

/-- A list of files with the siblings of its components among all files, in their order
and each once. -/
def withSiblings (included all : List String) : List String :=
  let dirs := included.filterMap siblingDirectory?
  included ++ ((all.filter fun path =>
    !included.contains path && !isShared path &&
      dirs.any fun dir => Path.startsWith path (dir ++ "/")).eraseDups)

end RepoSurvey.Feature
