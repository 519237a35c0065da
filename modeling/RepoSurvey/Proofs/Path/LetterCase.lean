import RepoSurvey.Proofs.Path.Segments
import RepoSurvey.Proofs.Text.LetterCase

/-!
# Paths that differ in the case of letters

Slashes, backslashes and dots are no letters. So a path in lower case has the segments, the name and the
extension of the path, in lower case (`segments_toLower`, `fileName_toLower`, `extension_toLower`), and
what is read in lower case anyway is the same for both (`lowered_toLower`).
-/

namespace RepoSurvey

namespace Text

theorem lowered_toLower (s : String) : lowered s.toLower = lowered s := by
  rw [lowered, lowered, toList_toLower, lower_map_toLower]

/-- Lowering letter by letter is lowering the text. -/
theorem ofList_map_toLower (s : List Char) :
    String.ofList (s.map Char.toLower) = (String.ofList s).toLower := by
  apply String.toList_injective
  simp

/-- Texts are read alike if their lower case is the same in ASCII already. -/
theorem lowered_congr {a b : String} (same : a.toLower = b.toLower) : lowered a = lowered b := by
  rw [← lowered_toLower a, same, lowered_toLower]

end Text

namespace Path

open Text

variable {path : String}

/-- Case does not matter to slashes. -/
theorem slashed_toLower (path : String) : slashed path.toLower = (slashed path).toLower := by
  have mark : ∀ c : Char, (if c.toLower = '\\' then '/' else c.toLower) =
      (if c = '\\' then '/' else c).toLower := by
    intro c
    by_cases back : c = '\\'
    · rw [if_pos ((isMark_backslash c).mpr back), if_pos back]
      rfl
    · rw [if_neg fun lower => back ((isMark_backslash c).mp lower), if_neg back]
  rw [slashed, slashed, toList_toLower, ← ofList_map_toLower, List.map_map,
    List.map_map]
  exact congrArg String.ofList (List.map_congr_left fun c _ => mark c)

/-- Case does not matter to where a path is cut. -/
theorem segments_toLower (path : String) :
    segments path.toLower = (segments path).map String.toLower := by
  rw [segments, segments, toList_toLower, splitAt_map_toLower isMark_slash,
    List.map_map, List.map_map]
  exact List.map_congr_left fun piece _ => ofList_map_toLower piece

/-- The last name of a path in lower case is its last name, lowered. -/
theorem fileName_toLower (path : String) : fileName path.toLower = (fileName path).toLower := by
  rw [fileName, fileName, segments_toLower, List.getLastD_eq_getLast?, List.getLastD_eq_getLast?,
    List.getLast?_map]
  cases last : (segments path).getLast? with
  | none => exact absurd (List.getLast?_eq_none_iff.mp last) (segments_ne_nil path)
  | some piece => rfl

/-- The extension of a lowered name is its extension, lowered. -/
theorem extensionOfName_map_toLower (name : List Char) :
    extensionOfName (name.map Char.toLower) = (extensionOfName name).map Char.toLower := by
  have dot : ∀ c : Char, (c.toLower != '.') = (c != '.') := by
    intro c
    rw [Bool.eq_iff_iff, bne_iff_ne, bne_iff_ne, ne_eq, ne_eq, isMark_dot c]
  have tail : (name.map Char.toLower).reverse.takeWhile (· != '.') =
      (name.reverse.takeWhile (· != '.')).map Char.toLower := by
    rw [← List.map_reverse, List.takeWhile_map]
    exact congrArg (fun stops => (name.reverse.takeWhile stops).map Char.toLower) (funext dot)
  rw [extensionOfName, extensionOfName, tail, List.length_map, List.length_map, ← List.map_reverse]
  split <;> rfl

/-- The extension of a path in lower case is its extension, lowered. -/
theorem extension_toLower (path : String) : extension path.toLower = (extension path).toLower := by
  rw [extension, extension, slashed_toLower, fileName_toLower, ← ofList_map_toLower,
    ← extensionOfName_map_toLower, toList_toLower]

end Path

end RepoSurvey
