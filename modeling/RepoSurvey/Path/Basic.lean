import RepoSurvey.Text.Pieces

/-!
# Project paths

A project path is a string of segments between slashes, relative to the project's root.
A backslash is read as a slash where a path comes from outside (`slashed`). The extension
of a path is that of its last segment, and a name that starts with its only dot has none.
-/

namespace RepoSurvey.Path

/-- A path with its backslashes turned into slashes. -/
def slashed (path : String) : String :=
  String.ofList (path.toList.map fun c => if c = '\\' then '/' else c)

/-- The segments of a path, outermost first. There is always at least one. -/
def segments (path : String) : List String :=
  (Text.splitAt '/' path.toList).map String.ofList

/-- The last segment of a path. -/
def fileName (path : String) : String := (segments path).getLastD ""

/-- The end of a name from its last dot on; empty if there is no dot or the name starts
with it. -/
def extensionOfName (name : List Char) : List Char :=
  let tail := name.reverse.takeWhile (· != '.')
  if tail.length + 1 < name.length then '.' :: tail.reverse else []

/-- The extension of a path, with its dot; empty if there is none. -/
def extension (path : String) : String :=
  String.ofList (extensionOfName (fileName (slashed path)).toList)

/-- Whether a string starts with another. -/
def startsWith (path part : String) : Bool := part.toList.isPrefixOf path.toList

/-- Whether a string ends with another. -/
def endsWith (path part : String) : Bool := part.toList.isSuffixOf path.toList

/-- Whether a string occurs in another. -/
def holds (path part : String) : Bool := Text.occursIn part.toList path.toList

/-- Whether a null character stands in a string. No file has such a path. -/
def holdsNull (path : String) : Bool := path.toList.contains '\x00'

/-- What is said of a path with a null character. -/
def nullMessage : String := "embedded null byte"

/-- A path without a backslash is spelled with slashes already. -/
theorem slashed_eq_self {path : String} (plain : '\\' ∉ path.toList) :
    slashed path = path := by
  have same : path.toList.map (fun c => if c = '\\' then '/' else c) = path.toList := by
    refine (List.map_congr_left fun c hc => ?_).trans (List.map_id _)
    have other : c ≠ '\\' := fun h => plain (h ▸ hc)
    exact if_neg other
  rw [slashed, same, String.ofList_toList]

theorem segments_ne_nil (path : String) : segments path ≠ [] := by
  simp [segments, Text.splitAt_ne_nil]

end RepoSurvey.Path
