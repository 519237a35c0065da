import RepoSurvey.Path.Basic

/-!
# Paths by their spelling

Joining and normalising paths without looking at any file. `normalize` walks over the
segments: empty ones and single dots vanish, and two dots take back the segment before,
if there is one to take back. A path that starts with a slash cannot climb above it; any
other keeps the climbs that it cannot take back at its start.
-/

namespace RepoSurvey.Path

/-- One more segment on a stack of segments, the last on top. -/
def pushSegment (absolute : Bool) (stack : List String) (segment : String) : List String :=
  if segment = "" || segment = "." then stack
  else if segment != ".." || (!absolute && stack.isEmpty) || stack.head? = some ".." then
    segment :: stack
  else stack.tail

/-- The segments of a path with its dots evaluated. -/
def evaluated (absolute : Bool) (parts : List String) : List String :=
  (parts.foldl (pushSegment absolute) []).reverse

/-- The slashes that a normal path keeps at its start: exactly two stay two, any other
number becomes one. -/
def leadingSlashes (path : String) : String :=
  if startsWith path "//" && !startsWith path "///" then "//"
  else if startsWith path "/" then "/"
  else ""

/-- A path in normal form; the empty path is a single dot. -/
def normalize (path : String) : String :=
  let slashes := leadingSlashes path
  let result := slashes ++ "/".intercalate (evaluated (slashes != "") (segments path))
  if result = "" then "." else result

/-- What stands before the last slash of a path, without the slashes at its end unless it
is all slashes. -/
def directory (path : String) : String :=
  let head := (path.toList.reverse.dropWhile (· != '/')).reverse
  if head.all (· == '/') then String.ofList head
  else String.ofList (head.reverse.dropWhile (· == '/')).reverse

/-- A path seen from a directory. -/
def join (dir path : String) : String :=
  if startsWith path "/" then path
  else if dir = "" || endsWith dir "/" then dir ++ path
  else dir ++ "/" ++ path

/-- A path without the slashes at its end. -/
def trimEnd (path : String) : String :=
  String.ofList (path.toList.reverse.dropWhile (· == '/')).reverse

/-- A path without the slashes at its start. -/
def trimStart (path : String) : String :=
  String.ofList (path.toList.dropWhile (· == '/'))

end RepoSurvey.Path
