import RepoSurvey.Path.Lexical

/-!
# The parts of a path

A path taken apart without evaluating its dots: the slashes that it starts with, and the
segments that name something. `clean` is a path put together again from its parts.
-/

namespace RepoSurvey.Path

/-- The segments of a path that name something. -/
def named (path : String) : List String :=
  (segments path).filter fun part => part != "" && part != "."

/-- The parts of a path: its leading slashes, if there are any, and its segments. -/
def parts (path : String) : List String :=
  let slashes := leadingSlashes path
  if slashes = "" then named path else slashes :: named path

/-- A path without what names nothing; a path of nothing else is a single dot. -/
def clean (path : String) : String :=
  let result := leadingSlashes path ++ "/".intercalate (named path)
  if result = "" then "." else result

end RepoSurvey.Path
