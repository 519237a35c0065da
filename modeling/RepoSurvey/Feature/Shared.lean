import RepoSurvey.Pattern.Search
import RepoSurvey.Path.Basic

/-!
# Shared infrastructure

Generic files that every feature of a project uses: the common parts of its user
interface, a utility module, the index of its API clients. They are noted beside a
feature, never taken into it, and nothing is followed through them.
-/

namespace RepoSurvey.Feature

open Pattern

/-- A path below the common parts of the user interface. -/
def commonParts : Pattern := anyCase "/components/ui/"

/-- The utility module of a library directory. -/
def utilityModule : Pattern :=
  anyCase "/lib/utils." ++ wordsAnyCase ["ts", "js", "tsx", "jsx"] ++ anchor .textEnd

/-- The index of a directory of API clients. -/
def apiIndex : Pattern :=
  anyCase "/api/index." ++ wordsAnyCase ["ts", "js", "tsx", "jsx"] ++ anchor .textEnd

/-- A path with a slash in front, so that a directory at the root is found as any
other. -/
def rooted (path : String) : List Char := '/' :: path.toList

/-- Whether a file is shared infrastructure. -/
def isShared (path : String) : Bool :=
  [commonParts, utilityModule, apiIndex].any (·.occursIn (rooted (Path.slashed path)))

end RepoSurvey.Feature
